import CloudInventory.Compute.BootDrive
import CloudInventory.Proofs.Request.SetAttributes
import CloudInventory.Proofs.Resource.ReferenceFields
import CloudInventory.Resource.Assembly

/-!
# The selection of the boot drive

A server boots from the first of the attachments with the highest boot order. The order -1
stands for none, so it is left out, though there are lower ones. Here the fold over the
attachments is shown to select that attachment, which is one at most, and to keep it when
others are put in between or taken away that are not ahead of it.

The drive of the selected attachment is known under one identifier: the server's own record
of the attachment gives it, the selection shows it and a request names it.

Results:
1. `ServerDrive.exists_foldl_consider`: what the fold has seen has its first highest.
2. `ServerDrive.isFirstHighest_iff_of_extends`: attachments that are outranked do not count.
3. `ServerInfo.bootDrive_eq_some_iff`, `ServerInfo.bootDrive_eq_none_iff`: what is selected.
4. `ServerInfo.bootDrive_first_highest`: all of it, with the identifier of the drive.
-/

namespace CloudInventory

namespace ServerDrive

/-! ## First of the highest -/

/-- The attachment has a lower boot order, or none. -/
def Below (best a : ServerDrive) : Prop :=
  a.bootOrder ≠ -1 → a.bootOrder < best.bootOrder

/-- The attachment has no higher boot order. -/
def AtMost (best a : ServerDrive) : Prop :=
  a.bootOrder ≠ -1 → a.bootOrder ≤ best.bootOrder

theorem Below.atMost {best a : ServerDrive} (below : Below best a) : AtMost best a :=
  fun ordered => Int32.le_of_lt (below ordered)

/-- An attachment with a boot order, with lower ones in front of it and no higher ones
behind it. -/
def IsFirstHighest (best : ServerDrive) (drives : List ServerDrive) : Prop :=
  best.bootOrder ≠ -1 ∧ ∃ front back, drives = front ++ best :: back ∧
    (∀ a ∈ front, Below best a) ∧ ∀ a ∈ back, AtMost best a

variable {best current a : ServerDrive} {drives : List ServerDrive}

theorem not_isFirstHighest_nil : ¬ IsFirstHighest best [] := by
  rintro ⟨-, front, back, split, -⟩
  cases front <;> cases split

/-- It stands at the head, or it is above the head. -/
theorem isFirstHighest_cons_iff :
    IsFirstHighest best (a :: drives) ↔
      (a = best ∧ best.bootOrder ≠ -1 ∧ ∀ b ∈ drives, AtMost best b) ∨
        (Below best a ∧ IsFirstHighest best drives) := by
  constructor
  · rintro ⟨ordered, front, back, split, before, after⟩
    cases front with
    | nil =>
      cases split
      exact .inl ⟨rfl, ordered, after⟩
    | cons first front =>
      cases split
      obtain ⟨head, before⟩ := List.forall_mem_cons.1 before
      exact .inr ⟨head, ordered, front, back, rfl, before, after⟩
  · rintro (⟨rfl, ordered, after⟩ | ⟨head, ordered, front, back, rfl, before, after⟩)
    · exact ⟨ordered, [], drives, rfl, List.forall_mem_nil _, after⟩
    · exact ⟨ordered, a :: front, back, rfl, List.forall_mem_cons.2 ⟨head, before⟩, after⟩

theorem IsFirstHighest.mem (highest : IsFirstHighest best drives) : best ∈ drives := by
  obtain ⟨-, front, back, rfl, -⟩ := highest
  exact List.mem_append_right _ List.mem_cons_self

theorem IsFirstHighest.atMost (highest : IsFirstHighest best drives) :
    ∀ a ∈ drives, AtMost best a := by
  obtain ⟨-, front, back, rfl, before, after⟩ := highest
  simp only [List.forall_mem_append, List.forall_mem_cons]
  exact ⟨fun a member => (before a member).atMost, fun _ => Int32.le_refl _, after⟩

/-- There is one at most. -/
theorem IsFirstHighest.unique {other : ServerDrive} (highest : IsFirstHighest best drives)
    (otherHighest : IsFirstHighest other drives) : best = other := by
  induction drives with
  | nil => exact absurd highest not_isFirstHighest_nil
  | cons a drives ih =>
    -- Whatever stands at the head is at most the other one, and not below it as well.
    have clash {x y : ServerDrive} (ordered : x.bootOrder ≠ -1) (below : Below y x)
        (atMost : ∀ b ∈ drives, AtMost x b) (later : IsFirstHighest y drives) : False :=
      Int32.not_lt.2 (atMost y later.mem later.1) (below ordered)
    rcases isFirstHighest_cons_iff.1 highest with ⟨rfl, ordered, after⟩ | ⟨below, later⟩ <;>
      rcases isFirstHighest_cons_iff.1 otherHighest with ⟨rfl, others⟩ | ⟨otherBelow, otherLater⟩
    · rfl
    · exact (clash ordered otherBelow after otherLater).elim
    · exact (clash others.1 below others.2 later).elim
    · exact ih later otherLater

/-! ## The fold -/

theorem hasBootOrder_iff : a.hasBootOrder = true ↔ a.bootOrder ≠ -1 :=
  bne_iff_ne

/-- The best so far, after one more attachment of any kind. -/
def consider (best : Option ServerDrive) (a : ServerDrive) : Option ServerDrive :=
  if a.hasBootOrder then preferred best a else best

/-- An attachment behind the best so far that has no higher boot order does not count. -/
theorem isFirstHighest_of_passed (ordered : current.bootOrder ≠ -1) (passed : AtMost current a)
    (highest : IsFirstHighest best (current :: drives)) :
    IsFirstHighest best (current :: a :: drives) := by
  rw [isFirstHighest_cons_iff] at highest
  rw [isFirstHighest_cons_iff, isFirstHighest_cons_iff]
  rcases highest with ⟨rfl, -, after⟩ | ⟨below, later⟩
  · exact .inl ⟨rfl, ordered, List.forall_mem_cons.2 ⟨passed, after⟩⟩
  · exact .inr ⟨below, .inr ⟨fun set => Int32.lt_of_le_of_lt (passed set) (below ordered), later⟩⟩

/-- An attachment behind the best so far that has a higher boot order takes its place. -/
theorem isFirstHighest_of_surpassed (surpassed : current.bootOrder < a.bootOrder)
    (ordered : a.bootOrder ≠ -1) (highest : IsFirstHighest best (a :: drives)) :
    IsFirstHighest best (current :: a :: drives) := by
  have atMost : a.bootOrder ≤ best.bootOrder := highest.atMost a List.mem_cons_self ordered
  exact isFirstHighest_cons_iff.2
    (.inr ⟨fun _ => Int32.lt_of_lt_of_le surpassed atMost, highest⟩)

/-- The fold holds the first highest of what it has seen, and starts with one attachment. -/
theorem exists_foldl_consider (ordered : current.bootOrder ≠ -1) (drives : List ServerDrive) :
    ∃ best, drives.foldl consider (some current) = some best ∧
      IsFirstHighest best (current :: drives) := by
  induction drives generalizing current with
  | nil =>
    exact ⟨current, rfl, isFirstHighest_cons_iff.2 (.inl ⟨rfl, ordered, List.forall_mem_nil _⟩)⟩
  | cons a drives ih =>
    rw [List.foldl_cons]
    by_cases surpassed : a.bootOrder ≠ -1 ∧ current.bootOrder < a.bootOrder
    · have step : consider (some current) a = some a := by
        rw [consider, if_pos (hasBootOrder_iff.2 surpassed.1), preferred,
          if_neg (Int32.not_le.2 surpassed.2)]
      rw [step]
      obtain ⟨best, folded, highest⟩ := ih surpassed.1
      exact ⟨best, folded, isFirstHighest_of_surpassed surpassed.2 surpassed.1 highest⟩
    · have passed : AtMost current a := fun set =>
        Int32.not_lt.1 fun higher => surpassed ⟨set, higher⟩
      have step : consider (some current) a = some current := by
        rw [consider]
        split
        next set => exact if_pos (passed (hasBootOrder_iff.1 set))
        next => rfl
      rw [step]
      obtain ⟨best, folded, highest⟩ := ih ordered
      exact ⟨best, folded, isFirstHighest_of_passed ordered passed highest⟩

/-- Without a best so far, the fold has one as soon as there is a boot order. -/
theorem foldl_consider_none (drives : List ServerDrive) :
    (drives.foldl consider none = none ∧ ∀ a ∈ drives, a.bootOrder = -1) ∨
      ∃ best, drives.foldl consider none = some best ∧ IsFirstHighest best drives := by
  induction drives with
  | nil => exact .inl ⟨rfl, List.forall_mem_nil _⟩
  | cons a drives ih =>
    rw [List.foldl_cons]
    by_cases set : a.bootOrder = -1
    · have step : consider none a = none := if_neg (mt hasBootOrder_iff.1 (not_not.2 set))
      rw [step]
      rcases ih with ⟨folded, unset⟩ | ⟨best, folded, highest⟩
      · exact .inl ⟨folded, List.forall_mem_cons.2 ⟨set, unset⟩⟩
      · exact .inr ⟨best, folded,
          isFirstHighest_cons_iff.2 (.inr ⟨fun ordered => absurd set ordered, highest⟩)⟩
    · have step : consider none a = some a := if_pos (hasBootOrder_iff.2 set)
      rw [step]
      exact .inr (exists_foldl_consider set drives)

/-! ## More attachments -/

/-- The second list has the attachments of the first in their order, and anywhere between
them others with the property. -/
inductive Extends (extra : ServerDrive → Prop) : List ServerDrive → List ServerDrive → Prop
  | nil : Extends extra [] []
  | keep {short long : List ServerDrive} (a : ServerDrive) (rest : Extends extra short long) :
    Extends extra (a :: short) (a :: long)
  | insert {short long : List ServerDrive} {a : ServerDrive} (isExtra : extra a)
    (rest : Extends extra short long) : Extends extra short (a :: long)

theorem Extends.imp {weak strong : ServerDrive → Prop} {short long : List ServerDrive}
    (weaker : ∀ a, strong a → weak a) (longer : Extends strong short long) :
    Extends weak short long := by
  induction longer with
  | nil => exact .nil
  | keep a _ ih => exact .keep a ih
  | insert isExtra _ ih => exact .insert (weaker _ isExtra) ih

/-- What holds of the extra ones holds of all attachments exactly if it does without them. -/
theorem Extends.forall_iff {extra property : ServerDrive → Prop} {short long : List ServerDrive}
    (holds : ∀ a, extra a → property a) (longer : Extends extra short long) :
    (∀ a ∈ short, property a) ↔ ∀ a ∈ long, property a := by
  induction longer with
  | nil => exact Iff.rfl
  | keep a _ ih => rw [List.forall_mem_cons, List.forall_mem_cons, ih]
  | insert isExtra _ ih => rw [List.forall_mem_cons, ih, and_iff_right (holds _ isExtra)]

/-- Attachments below the first highest do not count, wherever they stand. -/
theorem isFirstHighest_iff_of_extends {short long : List ServerDrive}
    (longer : Extends (Below best) short long) :
    IsFirstHighest best short ↔ IsFirstHighest best long := by
  induction longer with
  | nil => exact Iff.rfl
  | keep a rest ih =>
    rw [isFirstHighest_cons_iff, isFirstHighest_cons_iff, ih,
      rest.forall_iff fun _ below => below.atMost]
  | insert below _ ih =>
    rw [isFirstHighest_cons_iff, ih]
    refine ⟨fun highest => .inr ⟨below, highest⟩, ?_⟩
    rintro (⟨rfl, ordered, -⟩ | ⟨-, highest⟩)
    · exact absurd (below ordered) Int32.lt_irrefl
    · exact highest

/-- An attachment that is not ahead may stand at the end. -/
theorem IsFirstHighest.append (highest : IsFirstHighest best drives) (atMost : AtMost best a) :
    IsFirstHighest best (drives ++ [a]) := by
  obtain ⟨ordered, front, back, rfl, before, after⟩ := highest
  refine ⟨ordered, front, back ++ [a], ?_, before, ?_⟩
  · rw [List.append_assoc, List.cons_append]
  · exact List.forall_mem_append.2 ⟨after, List.forall_mem_singleton.2 atMost⟩

end ServerDrive

/-! ## The drive of an attachment -/

/-- The uuid of a decoded drive is the text that is given for it. -/
theorem Drive.uuid_of_decode {json : Json} {x : Drive} (decoded : Resource.decode json = .ok x) :
    x.uuid = (RecordKind.drive.given? json "uuid").bind Json.text? := by
  obtain ⟨record, read, made⟩ := Resource.decode_eq_ok_iff.1 decoded
  simp only [Resource.ofRecord, ofRecord, bind_eq_ok_iff] at made
  obtain ⟨_, -, made⟩ := made
  cases made
  rw [Json.textField, RecordKind.member?_eq_given? read rfl (.inl rfl)]
  rfl

namespace ServerDrive

/-- The identifier of the drive in an attachment as it is sent: the bare one, or the uuid of
the inline record. -/
def sentDrive? (attachment : Json) : Option String :=
  (RecordKind.serverDrive.given? attachment "drive").bind fun drive =>
    (bareIdentifier? drive).or ((RecordKind.drive.given? drive "uuid").bind Json.text?)

/-- A decoded attachment knows its drive by the identifier that was sent. -/
theorem attachedUuid_of_decode {json : Json} {x : ServerDrive}
    (decoded : Resource.decode json = .ok x) : x.attachedUuid = sentDrive? json := by
  obtain ⟨holds, known⟩ := references_of_decode decoded
  unfold HoldsReference at holds
  rw [attachedUuid, known, Option.or_assoc, Option.or_self, sentDrive?]
  cases given : RecordKind.serverDrive.given? json "drive" with
  | none =>
    rw [given] at holds
    rw [← Except.ok.inj holds]
    rfl
  | some reference =>
    rw [given, Option.mapM_some] at holds
    obtain ⟨drive, converted, same⟩ := map_eq_ok_iff.1 holds
    rw [← same, Option.bind_some, Option.bind_some, Option.bind_some]
    rcases convertReference_eq_ok_iff.1 converted with ⟨id, bare, -⟩ | ⟨record, inline⟩
    · rw [bare, Option.some_or, Option.some_or]
    · rw [record, Drive.uuid_of_decode inline]

/-- A request names the drive of an attachment by the same identifier. -/
theorem member?_requestBody (x : ServerDrive) :
    (Sendable.requestBody x).member? "drive" = x.attachedUuid.map .string :=
  Json.hasFields_ofFields (by simp) _

end ServerDrive

/-! ## The selection -/

namespace ServerInfo

open ServerDrive (IsFirstHighest Extends Below AtMost)

variable {x y : ServerInfo}

theorem bootDrive_eq_foldl (x : ServerInfo) :
    x.bootDrive = x.drives.foldl ServerDrive.consider none := by
  rw [bootDrive, List.foldl_filter]
  rfl

theorem bootDrive_eq_none_iff : x.bootDrive = none ↔ ∀ a ∈ x.drives, a.bootOrder = -1 := by
  rw [bootDrive_eq_foldl]
  rcases ServerDrive.foldl_consider_none x.drives with ⟨none, unset⟩ | ⟨best, found, highest⟩
  · exact iff_of_true none unset
  · rw [found]
    exact iff_of_false nofun fun unset => highest.1 (unset best highest.mem)

theorem bootDrive_eq_some_iff {best : ServerDrive} :
    x.bootDrive = some best ↔ IsFirstHighest best x.drives := by
  constructor
  · intro selected
    rw [bootDrive_eq_foldl] at selected
    rcases ServerDrive.foldl_consider_none x.drives with ⟨none, -⟩ | ⟨other, found, highest⟩
    · cases none.symm.trans selected
    · cases found.symm.trans selected
      exact highest
  · intro highest
    rw [bootDrive_eq_foldl]
    rcases ServerDrive.foldl_consider_none x.drives with ⟨-, unset⟩ | ⟨other, found, first⟩
    · exact absurd (unset best highest.mem) highest.1
    · rw [found, first.unique highest]

/-- Attachments without a boot order do not count, whether one is selected or not. -/
theorem bootDrive_eq_of_extends (longer : Extends (·.bootOrder = -1) x.drives y.drives) :
    x.bootDrive = y.bootDrive := by
  cases selected : y.bootDrive with
  | none =>
    rw [bootDrive_eq_none_iff] at selected ⊢
    exact (longer.forall_iff fun _ => id).2 selected
  | some best =>
    rw [bootDrive_eq_some_iff] at selected ⊢
    have below (a : ServerDrive) (unset : a.bootOrder = -1) : Below best a :=
      fun ordered => absurd unset ordered
    exact (ServerDrive.isFirstHighest_iff_of_extends (longer.imp below)).2 selected

/-! ## Decoded servers -/

/-- The attachments of a server as they are sent. -/
def sentAttachments (json : Json) : List Json :=
  ((RecordKind.server.given? json "drives").map Json.items).getD []

/-- The attachments are decoded one by one and in order. -/
theorem drives_of_decode {json : Json} {x : ServerInfo} (decoded : Resource.decode json = .ok x) :
    List.Forall₂ (fun attachment drive => Resource.decode attachment = .ok drive)
      (sentAttachments json) x.drives := by
  obtain ⟨record, read, made⟩ := Resource.decode_eq_ok_iff.1 decoded
  simp only [Resource.ofRecord, ofRecord, bind_eq_ok_iff] at made
  obtain ⟨_, -, _, -, _, -, _, -, _, drives, _, -, _, -, made⟩ := made
  cases made
  exact mapM_eq_ok_iff.1 ((recordsField_eq_decode read rfl).symm.trans drives)

theorem itemsOf_requestBody (x : ServerInfo) :
    (Sendable.requestBody x).itemsOf "drives" = x.drives.map Sendable.requestBody :=
  itemsOf_ofFields (by simp) rfl

/-- The selected attachment is the first with the highest boot order, and there is none only
if no attachment has a boot order. Attachments without a boot order or with a lower one do not
count, wherever they are put in or taken away, and one that is no higher does not count at the
end. Where the server was decoded, the drive is known by the identifier that was sent with the
selected attachment, and a request names the same one in the same place. -/
theorem bootDrive_first_highest (x : ServerInfo) :
    (x.bootDrive = none ↔ ∀ a ∈ x.drives, a.bootOrder = -1) ∧
    (∀ best, x.bootDrive = some best ↔ IsFirstHighest best x.drives) ∧
    (∀ (y : ServerInfo) best, Extends (Below best) x.drives y.drives →
      (x.bootDrive = some best ↔ y.bootDrive = some best)) ∧
    (∀ y : ServerInfo, Extends (·.bootOrder = -1) x.drives y.drives →
      x.bootDrive = y.bootDrive) ∧
    (∀ best a, x.bootDrive = some best → AtMost best a →
      (x.addDrive a).bootDrive = some best) ∧
    ∀ json, Resource.decode json = .ok x → ∀ best, x.bootDrive = some best →
      ∃ front back, x.drives = front ++ best :: back ∧
        (∀ a ∈ front, Below best a) ∧ (∀ a ∈ back, AtMost best a) ∧
        ∃ attachment, (sentAttachments json)[front.length]? = some attachment ∧
          Resource.decode attachment = .ok best ∧
          x.bootDriveUuid = ServerDrive.sentDrive? attachment ∧
          ∃ body, ((Sendable.requestBody x).itemsOf "drives")[front.length]? = some body ∧
            body.member? "drive" = x.bootDriveUuid.map .string := by
  refine ⟨bootDrive_eq_none_iff, fun best => bootDrive_eq_some_iff, fun y best longer => ?_,
    fun y longer => bootDrive_eq_of_extends longer, fun best a selected atMost => ?_,
    fun json decoded best selected => ?_⟩
  · rw [bootDrive_eq_some_iff, bootDrive_eq_some_iff,
      ServerDrive.isFirstHighest_iff_of_extends longer]
  · exact bootDrive_eq_some_iff.2 ((bootDrive_eq_some_iff.1 selected).append atMost)
  · obtain ⟨-, front, back, split, before, after⟩ := bootDrive_eq_some_iff.1 selected
    have uuid : x.bootDriveUuid = best.attachedUuid := by
      rw [bootDriveUuid, selected, Option.bind_some]
    -- The attachment was sent at the place of the selected one.
    have place : x.drives[front.length]? = some best := by
      rw [split, List.getElem?_append_right (Nat.le_refl _), Nat.sub_self, List.getElem?_cons_zero]
    obtain ⟨attachment, sent, here⟩ : ∃ attachment,
        (sentAttachments json)[front.length]? = some attachment ∧
          Resource.decode attachment = .ok best :=
      exists_getElem?_of_forall₂ (drives_of_decode decoded) place
    refine ⟨front, back, split, before, after, attachment, sent, here, ?_,
      Sendable.requestBody best, ?_, ?_⟩
    · rw [uuid, ServerDrive.attachedUuid_of_decode here]
    · rw [itemsOf_requestBody, List.getElem?_map, place, Option.map_some]
    · rw [uuid, ServerDrive.member?_requestBody]

namespace BootSelectionExamples

/-- Four attachments: the first has no boot order, and two of the others share the highest. -/
def sent (a b c d : Json) : Json :=
  .object [("drives", .array [
    .object [("drive", a)],
    .object [("boot_order", .string "-3"), ("drive", b)],
    .object [("boot_order", .string "-2"), ("drive", c)],
    .object [("boot_order", .string "-2"), ("drive", d)]])]

/-- The record with nothing but the uuid. -/
def record (uuid : String) : Json :=
  .object [("uuid", .string uuid)]

/-- One drive is an inline record, the others are bare. -/
def sentServer : Json :=
  sent (.string "a") (.string "b") (record "c") (.string "d")

/-- An attachment as it is decoded. -/
def attached (bootOrder : Int32) (uuid : String) : ServerDrive where
  bootOrder := bootOrder
  driveUuid := some uuid
  drive := some { uuid := some uuid }

/-- The server as it is decoded. -/
def decoded : ServerInfo where
  drives := [attached (-1) "a", attached (-3) "b", attached (-2) "c", attached (-2) "d"]

/-- The server without the attachments that are outranked. -/
def ahead : ServerInfo where
  drives := [attached (-2) "c", attached (-2) "d"]

theorem decode_sentServer : Resource.decode sentServer = .ok decoded := by
  have noRuntime : (sent (record "a") (record "b") (record "c") (record "d")).child? "runtime" =
      none := Json.child?_of_absent rfl
  refine Resource.decode_eq_ok_iff.2
    ⟨sent (record "a") (record "b") (record "c") (record "d"), rfl, ?_⟩
  change ofRecord _ = _
  rw [ofRecord, Server.ofRecord, noRuntime]
  rfl

end BootSelectionExamples

open BootSelectionExamples in
/-- A boot order may be lower than the one that stands for none. Of two equal ones the first is
selected, also without the attachments that are outranked, and its drive is known and requested
by the uuid of the inline record. -/
theorem bootDrive_first_highest_negative :
    ahead.bootDrive = some (attached (-2) "c") ∧
      ∃ (i : Nat) (attachment body : Json),
        (sentAttachments sentServer)[i]? = some attachment ∧
        ServerDrive.sentDrive? attachment = some "c" ∧
        ((Sendable.requestBody decoded).itemsOf "drives")[i]? = some body ∧
        body.member? "drive" = some (.string "c") := by
  have selected : decoded.bootDrive = some (attached (-2) "c") := rfl
  have longer : Extends (Below (attached (-2) "c")) ahead.drives decoded.drives :=
    .insert (fun ordered => absurd rfl ordered) <| .insert (fun _ => by decide) <|
      .keep _ <| .keep _ .nil
  refine ⟨((bootDrive_first_highest ahead).2.2.1 decoded _ longer).2 selected, ?_⟩
  obtain ⟨front, back, -, -, -, attachment, sent, -, uuid, body, here, named⟩ :=
    (bootDrive_first_highest decoded).2.2.2.2.2 _ decode_sentServer _ selected
  exact ⟨front.length, attachment, body, sent, uuid.symm, here, named⟩

end ServerInfo

end CloudInventory
