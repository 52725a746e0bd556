import CloudInventory.Compute.SharedAdapter
import CloudInventory.Proofs.Compute.NodeText

/-!
# The drive cache cannot be seen

An entry of the cache is what the lookup says of its uuid, and a call that is under
way has been told what the lookup says. Every event keeps both, so no interleaving
can tell an adapter with a cache from one without.

Results:
1. `AdapterCall.Answered.unique`: without a cache a call has one answer.
2. `SharedAdapter.Consistent.step` and `SharedAdapter.consistent_run`: the invariant,
   kept by an event and by a run.
3. `SharedAdapter.Consistent.answerOf?_run`: a call is answered as without a cache after
   three steps of its own, whatever happens between them.
4. `SharedAdapter.run_alone`: a call that is not disturbed is the sequential one.
5. `SharedAdapter.cache_invisible`: every call is answered as without a cache.
-/

namespace CloudInventory

variable {lookup : String → Outcome (Option DriveInfo)}

/-! ## Without a cache -/

/-- What a call is answered without a cache: the details of the boot drive as the lookup gives
them, or a node that describes the server with these details, unless the lookup fails. -/
inductive AdapterCall.Answered (lookup : String → Outcome (Option DriveInfo))
    (call : AdapterCall) : AdapterAnswer → Prop
  | bootImage (asked : call.query = .bootImage) :
    Answered lookup call (.bootImage (ComputeAdapter.directImage lookup call.server))
  | node {image : Option DriveInfo} {node : ComputeNode} (asked : call.query = .node)
    (found : ComputeAdapter.directImage lookup call.server = .ok image)
    (describes : node.Describes call.server image) : Answered lookup call (.node (.ok node))
  | failed {e : ServiceError} (asked : call.query = .node)
    (fails : ComputeAdapter.directImage lookup call.server = .error e) :
    Answered lookup call (.node (.error e))

namespace AdapterCall

variable {call : AdapterCall} {answer other : AdapterAnswer}

/-- A call has one answer. -/
theorem Answered.unique (answered : call.Answered lookup answer)
    (answeredOther : call.Answered lookup other) : answer = other := by
  cases answered with
  | bootImage asked =>
    cases answeredOther with
    | bootImage => rfl
    | node asked' | failed asked' => exact nomatch asked.symm.trans asked'
  | node asked found describes =>
    cases answeredOther with
    | bootImage asked' => exact nomatch asked.symm.trans asked'
    | node _ found' describes' =>
      cases found.symm.trans found'
      rw [describes.unique describes']
    | failed _ fails => exact nomatch found.symm.trans fails
  | failed asked fails =>
    cases answeredOther with
    | bootImage asked' => exact nomatch asked.symm.trans asked'
    | node _ found => exact nomatch fails.symm.trans found
    | failed _ fails' =>
      cases fails.symm.trans fails'
      rfl

variable (lookup call) in
/-- The answer that is made of the details that the lookup gives is the one. -/
theorem answered_answer :
    call.Answered lookup
      (call.query.answer call.server (ComputeAdapter.directImage lookup call.server)) := by
  cases asked : call.query with
  | bootImage => exact .bootImage asked
  | node =>
    rw [AdapterQuery.answer]
    cases found : ComputeAdapter.directImage lookup call.server with
    | ok image => exact .node asked found (ComputeNode.describes_nodeWith call.server image)
    | error e => exact .failed asked found

end AdapterCall

/-! ## The invariant -/

/-- Every entry of the cache is what the lookup says of its uuid. -/
def DriveCache.Agrees (lookup : String → Outcome (Option DriveInfo)) (cache : DriveCache) : Prop :=
  ∀ entry ∈ cache.entries, lookup entry.1 = .ok (some entry.2)

/-- What a call for a server knows is what the lookup says of its boot drive. -/
inductive AdapterPhase.Agrees (lookup : String → Outcome (Option DriveInfo))
    (server : ServerInfo) : AdapterPhase → Prop
  | begun : Agrees lookup server .begun
  | missed {uuid : String} : server.bootDriveUuid = some uuid → Agrees lookup server (.missed uuid)
  | told {uuid : String} : server.bootDriveUuid = some uuid →
      Agrees lookup server (.told uuid (lookup uuid))
  | done : Agrees lookup server (.done (ComputeAdapter.directImage lookup server))

/-- The cache and all calls agree with the lookup. -/
structure SharedAdapter.Consistent (lookup : String → Outcome (Option DriveInfo))
    (adapter : SharedAdapter) : Prop where
  cache : adapter.cache.Agrees lookup
  calls : ∀ call ∈ adapter.calls, call.phase.Agrees lookup call.server

namespace ComputeAdapter

variable (lookup) in
theorem directImage_of_uuid {server : ServerInfo} {uuid : String}
    (boots : server.bootDriveUuid = some uuid) : directImage lookup server = lookup uuid := by
  rw [directImage, boots]

variable (lookup) in
theorem directImage_of_no_uuid {server : ServerInfo} (boots : server.bootDriveUuid = none) :
    directImage lookup server = .ok none := by
  rw [directImage, boots]

end ComputeAdapter

open ComputeAdapter

/-! ## The cache -/

namespace DriveCache

/-- What the cache finds is what the lookup says. -/
theorem Agrees.lookup_eq {cache : DriveCache} {uuid : String} {drive : DriveInfo}
    (agrees : cache.Agrees lookup) (found : cache.get? uuid = some drive) :
    lookup uuid = .ok (some drive) :=
  agrees (uuid, drive) (Json.mem_of_lookup found)

/-- Giving up an entry keeps the rest. -/
theorem Agrees.remove {cache : DriveCache} (agrees : cache.Agrees lookup) (uuid : String) :
    (cache.remove uuid).Agrees lookup :=
  fun entry member => agrees entry ((cache.others_sublist uuid).subset member)

/-- The cache may learn what the lookup says. -/
theorem Agrees.learn {cache : DriveCache} (agrees : cache.Agrees lookup)
    (policy : EvictionPolicy) (uuid : String) :
    (cache.learn policy uuid (lookup uuid)).Agrees lookup := by
  unfold DriveCache.learn
  split
  next drive told =>
    intro entry member
    have offered : entry ∈ cache.offered uuid drive :=
      (policy.keep_sublist _ _).subset member
    rcases List.mem_cons.1 offered with rfl | older
    · exact told
    · exact agrees entry ((cache.others_sublist uuid).subset older)
  next => exact agrees

/-- Nothing is learnt from a failure or from a drive that does not exist. -/
theorem learn_of_no_drive (cache : DriveCache) (policy : EvictionPolicy) (uuid : String)
    {image : Outcome (Option DriveInfo)} (noDrive : ∀ drive, image ≠ .ok (some drive)) :
    cache.learn policy uuid image = cache := by
  unfold DriveCache.learn
  split
  next drive => exact absurd rfl (noDrive drive)
  next => rfl

end DriveCache

/-! ## One step of a call -/

namespace AdapterPhase

variable {cache : DriveCache} {server : ServerInfo} {phase : AdapterPhase}

/-- A cache that agrees with the lookup is read as the lookup is asked. -/
theorem agrees_read (agrees : cache.Agrees lookup) : (read cache server).Agrees lookup server := by
  unfold read
  split
  next boots =>
    rw [← directImage_of_no_uuid lookup boots]
    exact .done
  next uuid boots =>
    split
    next drive found =>
      rw [← agrees.lookup_eq found, ← directImage_of_uuid lookup boots]
      exact .done
    next => exact .missed boots

/-- A step keeps the agreement of the cache and of the call. -/
theorem Agrees.next (known : phase.Agrees lookup server) (agrees : cache.Agrees lookup)
    (policy : EvictionPolicy) :
    (phase.next lookup policy cache server).1.Agrees lookup ∧
      (phase.next lookup policy cache server).2.Agrees lookup server := by
  cases known with
  | begun => exact ⟨agrees, agrees_read agrees⟩
  | missed boots => exact ⟨agrees, .told boots⟩
  | @told uuid boots =>
    refine ⟨agrees.learn policy uuid, ?_⟩
    show Agrees lookup server (.done (lookup uuid))
    rw [← directImage_of_uuid lookup boots]
    exact .done
  | done => exact ⟨agrees, .done⟩

/-- A step of a call that is told of no drive leaves the cache as it is. -/
theorem Agrees.next_cache (known : phase.Agrees lookup server)
    (noDrive : ∀ drive, directImage lookup server ≠ .ok (some drive))
    (policy : EvictionPolicy) : (phase.next lookup policy cache server).1 = cache := by
  cases known with
  | told boots =>
    rw [directImage_of_uuid lookup boots] at noDrive
    exact cache.learn_of_no_drive policy _ noDrive
  | _ => rfl

theorem remaining_read : (read cache server).remaining ≤ 2 := by
  unfold read
  split
  next => exact Nat.zero_le 2
  next =>
    split
    next => exact Nat.zero_le 2
    next => exact Nat.le_refl 2

/-- A step leaves one step less, as long as one is left. -/
theorem remaining_next (policy : EvictionPolicy) :
    (phase.next lookup policy cache server).2.remaining ≤ phase.remaining - 1 := by
  cases phase with
  | begun => exact remaining_read
  | missed uuid => exact Nat.le_refl 1
  | told uuid image => exact Nat.le_refl 0
  | done image => exact Nat.le_refl 0

theorem remaining_le (phase : AdapterPhase) : phase.remaining ≤ 3 := by
  cases phase with
  | begun => exact Nat.le_refl 3
  | missed uuid => exact Nat.le_succ 2
  | told uuid image => exact Nat.le_add_left 1 2
  | done image => exact Nat.zero_le 3

/-- A call without a step left has the image that the lookup gives. -/
theorem Agrees.image?_eq (known : phase.Agrees lookup server) (finished : phase.remaining = 0) :
    phase.image? = some (directImage lookup server) := by
  cases known with
  | done => rfl
  | _ => exact nomatch finished

/-- The image of a call is the one that the lookup gives. -/
theorem Agrees.eq_of_image? (known : phase.Agrees lookup server)
    {image : Outcome (Option DriveInfo)} (finished : phase.image? = some image) :
    image = directImage lookup server := by
  cases known with
  | done => exact (Option.some.inj finished).symm
  | _ => exact nomatch finished

end AdapterPhase

/-! ## Runs -/

namespace SharedAdapter

variable {adapter : SharedAdapter}

theorem advance_eq_self {index : Nat} (absent : adapter.calls[index]? = none)
    (policy : EvictionPolicy) : adapter.advance lookup index policy = adapter := by
  rw [advance, absent]

theorem advance_eq {index : Nat} {call : AdapterCall} (found : adapter.calls[index]? = some call)
    (policy : EvictionPolicy) :
    adapter.advance lookup index policy =
      { cache := (call.phase.next lookup policy adapter.cache call.server).1
        calls := adapter.calls.set index
          { call with phase := (call.phase.next lookup policy adapter.cache call.server).2 } } := by
  rw [advance, found]

theorem consistent_fresh (capacity : Nat) : (fresh capacity).Consistent lookup where
  cache _ member := absurd member List.not_mem_nil
  calls _ member := absurd member List.not_mem_nil

/-- Every event keeps the agreement. -/
theorem Consistent.step (consistent : adapter.Consistent lookup) (event : AdapterEvent) :
    (adapter.step lookup event).Consistent lookup := by
  cases event with
  | begin query server =>
    refine ⟨consistent.cache, ?_⟩
    intro call member
    rcases List.mem_append.1 member with earlier | last
    · exact consistent.calls call earlier
    · rw [List.mem_singleton.1 last]
      exact .begun
  | advance index policy =>
    show (adapter.advance lookup index policy).Consistent lookup
    cases found : adapter.calls[index]? with
    | none =>
      rw [advance_eq_self found]
      exact consistent
    | some call =>
      rw [advance_eq found]
      have known := consistent.calls call (List.mem_of_getElem? found)
      obtain ⟨cache, phase⟩ := known.next consistent.cache policy
      refine ⟨cache, ?_⟩
      intro other member
      rcases List.mem_or_eq_of_mem_set member with untouched | rfl
      · exact consistent.calls other untouched
      · exact phase
  | evict uuid => exact ⟨consistent.cache.remove uuid, consistent.calls⟩

theorem consistent_run (consistent : adapter.Consistent lookup) (events : List AdapterEvent) :
    (adapter.run lookup events).Consistent lookup := by
  induction events generalizing adapter with
  | nil => exact consistent
  | cons event rest ih => exact ih (consistent.step event)

variable (lookup) in
/-- An event is a step of a call, or leaves the call as it is. -/
theorem call_step {index : Nat} {call : AdapterCall} (found : adapter.calls[index]? = some call)
    (event : AdapterEvent) :
    ∃ phase, (adapter.step lookup event).calls[index]? = some { call with phase } ∧
      phase.remaining ≤ call.phase.remaining - if event.advances index then 1 else 0 := by
  have inRange : index < adapter.calls.length := (List.getElem?_eq_some_iff.1 found).1
  cases event with
  | begin query server =>
    refine ⟨call.phase, ?_, Nat.le_refl _⟩
    show (adapter.calls ++ _)[index]? = _
    rw [List.getElem?_append_left inRange, found]
  | advance other policy =>
    show ∃ phase, (adapter.advance lookup other policy).calls[index]? = some _ ∧ _
    by_cases same : other = index
    · subst same
      rw [advance_eq found]
      refine ⟨(call.phase.next lookup policy adapter.cache call.server).2,
        List.getElem?_set_self inRange, ?_⟩
      rw [AdapterEvent.advances, beq_self_eq_true, if_pos rfl]
      exact AdapterPhase.remaining_next policy
    · refine ⟨call.phase, ?_, ?_⟩
      · cases there : adapter.calls[other]? with
        | none =>
          rw [advance_eq_self there]
          exact found
        | some active =>
          rw [advance_eq there]
          exact (List.getElem?_set_ne same).trans found
      · rw [AdapterEvent.advances, beq_false_of_ne same]
        exact Nat.le_refl _
  | evict uuid => exact ⟨call.phase, found, Nat.le_refl _⟩

variable (lookup) in
/-- A call goes on as far as a run lets it take steps. -/
theorem call_run {index : Nat} {call : AdapterCall} (found : adapter.calls[index]? = some call)
    (events : List AdapterEvent) :
    ∃ phase, (adapter.run lookup events).calls[index]? = some { call with phase } ∧
      phase.remaining ≤ call.phase.remaining - events.countP (AdapterEvent.advances index) := by
  induction events generalizing adapter call with
  | nil => exact ⟨call.phase, found, Nat.le_refl _⟩
  | cons event rest ih =>
    obtain ⟨phase, now, fewer⟩ := call_step lookup found event
    obtain ⟨last, after, least⟩ := ih now
    refine ⟨last, after, ?_⟩
    rw [List.countP_cons]
    simp only at least
    omega

/-- A call is answered as without a cache once it has taken three steps, whatever
happened between them. -/
theorem Consistent.answerOf?_run (consistent : adapter.Consistent lookup) {index : Nat}
    {call : AdapterCall} (found : adapter.calls[index]? = some call) {events : List AdapterEvent}
    (steps : 3 ≤ events.countP (AdapterEvent.advances index)) :
    (adapter.run lookup events).answerOf? index =
      some (call.query.answer call.server (directImage lookup call.server)) := by
  obtain ⟨phase, now, left⟩ := call_run lookup found events
  have known := (consistent_run consistent events).calls _ (List.mem_of_getElem? now)
  have enough := call.phase.remaining_le
  have finished : phase.remaining = 0 := by omega
  rw [answerOf?, now, Option.bind_some, AdapterCall.answer?, known.image?_eq finished]
  rfl

/-! ## Calls that are not disturbed -/

/-- A step of the last call. -/
theorem advance_last (cache : DriveCache) (calls : List AdapterCall) (call : AdapterCall)
    (policy : EvictionPolicy) :
    ({ cache, calls := calls ++ [call] } : SharedAdapter).advance lookup calls.length policy =
      { cache := (call.phase.next lookup policy cache call.server).1
        calls := calls ++
          [{ call with phase := (call.phase.next lookup policy cache call.server).2 }] } := by
  have last : (calls ++ [call])[calls.length]? = some call := List.getElem?_concat_length
  rw [@advance_eq lookup { cache, calls := calls ++ [call] } calls.length call last policy]
  simp only [List.set_append_right, Nat.le_refl, Nat.sub_self, List.set_cons_zero]

variable (lookup) in
/-- A call whose steps follow each other leaves the cache and the image of the
sequential adapter. -/
theorem run_alone (adapter : SharedAdapter) (query : AdapterQuery) (server : ServerInfo)
    (policy : EvictionPolicy) :
    adapter.run lookup
        (.begin query server :: List.replicate 3 (.advance adapter.calls.length policy)) =
      { cache := (bootImage (m := Id) lookup policy adapter.cache server).2
        calls := adapter.calls ++
          [⟨query, server, .done (bootImage (m := Id) lookup policy adapter.cache server).1⟩] } := by
  simp only [run, List.replicate, List.foldl_cons, List.foldl_nil, SharedAdapter.step,
    advance_last, AdapterPhase.next]
  cases boots : server.bootDriveUuid with
  | none =>
    simp only [AdapterPhase.read, bootImage, boots]
    rfl
  | some uuid =>
    cases found : adapter.cache.get? uuid with
    | some drive =>
      simp only [AdapterPhase.read, bootImage, driveInfo, boots, found]
      rfl
    | none =>
      simp only [AdapterPhase.read, bootImage, driveInfo, boots, found]
      rfl

/-- The sequential adapter gives the image that the lookup gives. -/
theorem Consistent.bootImage_eq (consistent : adapter.Consistent lookup)
    (policy : EvictionPolicy) (server : ServerInfo) :
    (bootImage (m := Id) lookup policy adapter.cache server).1 = directImage lookup server := by
  have after := consistent_run consistent
    (.begin .bootImage server :: List.replicate 3 (.advance adapter.calls.length policy))
  rw [run_alone] at after
  exact (after.calls _ List.mem_concat_self).eq_of_image? rfl

/-! ## No interleaving shows the cache -/

/-- Whatever calls have begun, in whatever order their steps were taken and whatever
the cache has given up: a call that is over was answered as without a cache, and so is
every call after three steps of its own. So is every call of the sequential adapter,
which leaves a cache that further events lead to as well. The entries of the cache are
what the lookup says, and a call that gets no drive leaves them as they are. -/
theorem cache_invisible (lookup : String → Outcome (Option DriveInfo)) (capacity : Nat)
    (events : List AdapterEvent) :
    let adapter := (fresh capacity).run lookup events
    (∀ call ∈ adapter.calls, ∀ answer ∈ call.answer?, call.Answered lookup answer) ∧
    (∀ (index : Nat) (call : AdapterCall) (more : List AdapterEvent),
      adapter.calls[index]? = some call → 3 ≤ more.countP (AdapterEvent.advances index) →
      ∃ answer, (adapter.run lookup more).answerOf? index = some answer ∧
        ∀ other, call.Answered lookup other ↔ other = answer) ∧
    (∀ (policy : EvictionPolicy) (server : ServerInfo),
      (bootImage (m := Id) lookup policy adapter.cache server).1 = directImage lookup server ∧
      AdapterCall.Answered lookup { query := .node, server }
        (.node (node (m := Id) lookup policy adapter.cache server).1) ∧
      ∃ more, (bootImage (m := Id) lookup policy adapter.cache server).2 =
          (adapter.run lookup more).cache ∧
        (node (m := Id) lookup policy adapter.cache server).2 =
          (adapter.run lookup more).cache) ∧
    (∀ (uuid : String) (drive : DriveInfo), (uuid, drive) ∈ adapter.cache.entries →
      lookup uuid = .ok (some drive)) ∧
    (∀ (index : Nat) (call : AdapterCall) (policy : EvictionPolicy),
      adapter.calls[index]? = some call →
      (∀ drive, directImage lookup call.server ≠ .ok (some drive)) →
      (adapter.advance lookup index policy).cache = adapter.cache) := by
  intro adapter
  have consistent : adapter.Consistent lookup := consistent_run (consistent_fresh capacity) events
  refine ⟨?_, ?_, ?_, ?_, ?_⟩
  · intro call member answer answered
    obtain ⟨image, finished, rfl⟩ := Option.map_eq_some_iff.1 answered
    rw [(consistent.calls call member).eq_of_image? finished]
    exact call.answered_answer lookup
  · intro index call more found steps
    have answered := call.answered_answer lookup
    exact ⟨_, consistent.answerOf?_run found steps,
      fun other =>
        ⟨fun answeredOther => answeredOther.unique answered, fun same => same ▸ answered⟩⟩
  · intro policy server
    have image := consistent.bootImage_eq policy server
    have made : (node (m := Id) lookup policy adapter.cache server).1 =
        (directImage lookup server).map (nodeWith server) :=
      congrArg (Except.map (nodeWith server)) image
    have cache := congrArg SharedAdapter.cache (run_alone lookup adapter .bootImage server policy)
    refine ⟨image, ?_, _, cache.symm, cache.symm⟩
    rw [made]
    exact AdapterCall.answered_answer lookup { query := .node, server }
  · intro uuid drive member
    exact consistent.cache (uuid, drive) member
  · intro index call policy found noDrive
    rw [advance_eq found]
    exact (consistent.calls call (List.mem_of_getElem? found)).next_cache noDrive policy

end SharedAdapter

/-! ## Three calls -/

namespace SharedCacheExamples

/-- The drive `d1` exists, and the lookup of any other fails. -/
def drives (uuid : String) : Outcome (Option DriveInfo) :=
  if uuid = "d1" then .ok (some { name := some "Ubuntu" }) else .error (.status 500 "")

def booting (uuid : String) : ServerInfo :=
  { drives := [{ bootOrder := 1, driveUuid := some uuid }] }

/-- Two calls for `d1` and one for `d2`. -/
def opening : List AdapterEvent :=
  [.begin .node (booting "d1"), .begin .bootImage (booting "d1"), .begin .node (booting "d2")]

/-- Both calls for `d1` miss; what the first one inserts is given up before the second
one inserts it again. -/
def tangled : List AdapterEvent :=
  [.advance 0 .newest, .advance 1 .newest, .advance 2 .newest, .advance 0 .newest,
    .advance 0 .newest, .evict "d1", .advance 1 .newest, .advance 2 .newest,
    .advance 1 .newest, .advance 2 .newest]

end SharedCacheExamples

open SharedCacheExamples in
/-- A call for `d1` and a call for `d2` amid the others, and a step of the latter. -/
theorem SharedAdapter.cache_invisible_tangled :
    (∃ node, (((fresh 1).run drives opening).run drives tangled).answerOf? 0 =
        some (.node (.ok node)) ∧
        node.bootDrive = some "d1" ∧ node.image = some "Ubuntu") ∧
      (((fresh 1).run drives opening).run drives tangled).answerOf? 2 =
        some (.node (.error (.status 500 ""))) ∧
      (((fresh 1).run drives opening).advance drives 2 .newest).cache =
        ((fresh 1).run drives opening).cache := by
  obtain ⟨-, answered, -, -, kept⟩ := SharedAdapter.cache_invisible drives 1 opening
  have lookedUp : directImage drives (booting "d1") = .ok (some { name := some "Ubuntu" }) := rfl
  have failed : directImage drives (booting "d2") = .error (.status 500 "") := rfl
  refine ⟨?_, ?_, ?_⟩
  · have describes := ComputeNode.describes_nodeWith (booting "d1") (some { name := some "Ubuntu" })
    obtain ⟨answer, told, only⟩ :=
      answered 0 { query := .node, server := booting "d1" } tangled rfl (by decide)
    have same := (only _).1 (.node rfl lookedUp describes)
    exact ⟨_, told.trans (congrArg some same.symm), describes.bootDrive, describes.image⟩
  · obtain ⟨answer, told, only⟩ :=
      answered 2 { query := .node, server := booting "d2" } tangled rfl (by decide)
    exact told.trans (congrArg some ((only _).1 (.failed rfl failed)).symm)
  · refine kept 2 { query := .node, server := booting "d2" } .newest rfl fun drive found => ?_
    exact nomatch failed.symm.trans found

end CloudInventory
