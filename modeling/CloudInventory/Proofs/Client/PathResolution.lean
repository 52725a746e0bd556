import CloudInventory.Client.Url

/-!
# Resolved paths

A path is a list of segments. Resolving it goes through the segments once, with a stack of
those that are done: `.` is left out, and `..` takes the segment before it along. So what a
path begins with can be resolved for itself, and names behind it are put on its stack. Names
other than the two stay there; but `..` takes the name before it away, or the last one of
the path.

Results:
1. `Url.segments_folder`: names with slashes behind them are the segments of a text.
2. `Url.resolve_append`: segments behind others.
3. `Url.pathChars_folder`: names behind a path, by what they make of its stack.
4. `Url.foldl_enter_of_proper`: names that stay.
-/

namespace CloudInventory.Url

/-! ## Segments -/

theorem segments_ne_nil (cs : List Char) : segments cs ≠ [] := by
  cases cs with
  | nil => exact List.cons_ne_nil _ _
  | cons c cs =>
    rw [segments]
    split
    next => exact List.cons_ne_nil _ _
    next => split <;> exact List.cons_ne_nil _ _

theorem segments_separator {c : Char} (separator : isSeparator c = true) (cs : List Char) :
    segments (c :: cs) = [] :: segments cs := by
  rw [segments, if_pos separator]

/-- A text without separators is one segment. -/
theorem segments_of_single {cs : List Char} (single : ∀ c ∈ cs, isSeparator c = false) :
    segments cs = [cs] := by
  induction cs with
  | nil => rfl
  | cons c cs ih =>
    obtain ⟨first, later⟩ := List.forall_mem_cons.1 single
    rw [segments, first, if_neg Bool.false_ne_true, ih later]

/-- A separator ends the segments before it. -/
theorem segments_append_separator {c : Char} (separator : isSeparator c = true)
    (cs ds : List Char) : segments (cs ++ c :: ds) = segments cs ++ segments ds := by
  induction cs with
  | nil => rw [List.nil_append, segments_separator separator, segments, List.singleton_append]
  | cons first cs ih =>
    rw [List.cons_append, segments, segments]
    split
    next => rw [ih, List.cons_append]
    next =>
      rw [ih]
      cases parts : segments cs with
      | nil => exact absurd parts (segments_ne_nil cs)
      | cons head rest => rfl

/-- Names, each with a slash behind it. -/
def folder (names : List (List Char)) : List Char :=
  names.flatMap (· ++ ['/'])

/-- No name has a separator in it. -/
def AreSingle (names : List (List Char)) : Prop :=
  ∀ name ∈ names, ∀ c ∈ name, isSeparator c = false

section

variable {names : List (List Char)}

theorem folder_cons (name : List Char) (names : List (List Char)) :
    folder (name :: names) = name ++ '/' :: folder names := by
  rw [folder, List.flatMap_cons, List.append_assoc, List.singleton_append]
  rfl

theorem folder_append (front back : List (List Char)) :
    folder (front ++ back) = folder front ++ folder back :=
  List.flatMap_append ..

/-- Names are the segments of the text in which each has a slash behind it. -/
theorem segments_folder (single : AreSingle names) : segments (folder names) = names ++ [[]] := by
  induction names with
  | nil => rfl
  | cons name names ih =>
    obtain ⟨first, later⟩ := List.forall_mem_cons.1 single
    rw [folder_cons, segments_append_separator rfl, segments_of_single first, ih later]
    rfl

/-- Names are known from the text. -/
theorem folder_inj {other : List (List Char)} (single : AreSingle names)
    (singleOther : AreSingle other) (same : folder names = folder other) : names = other := by
  have segmentsSame := congrArg segments same
  rw [segments_folder single, segments_folder singleOther] at segmentsSame
  exact List.append_cancel_right segmentsSame

end

/-! ## Resolution -/

/-- The segments that are done, after one more of them. -/
def enter (done : List (List Char)) (segment : List Char) : List (List Char) :=
  if isParent segment then done.tail else if isCurrent segment then done else segment :: done

/-- A segment that names something. -/
def IsProper (segment : List Char) : Prop :=
  isParent segment = false ∧ isCurrent segment = false

instance (segment : List Char) : Decidable (IsProper segment) :=
  inferInstanceAs (Decidable (_ ∧ _))

theorem enter_of_proper {segment : List Char} (proper : IsProper segment)
    (done : List (List Char)) : enter done segment = segment :: done := by
  rw [enter, proper.1, proper.2, if_neg Bool.false_ne_true, if_neg Bool.false_ne_true]

theorem resolve_cons {rest : List (List Char)} (more : rest ≠ []) (done : List (List Char))
    (segment : List Char) : resolve done (segment :: rest) = resolve (enter done segment) rest := by
  obtain ⟨next, rest, rfl⟩ := List.exists_cons_of_ne_nil more
  rw [resolve, enter]
  · split
    next => rfl
    next => split <;> rfl
  · exact List.cons_ne_nil _ _

/-- What a path begins with is resolved for itself. -/
theorem resolve_append {rest : List (List Char)} (more : rest ≠ [])
    (done front : List (List Char)) :
    resolve done (front ++ rest) = resolve (front.foldl enter done) rest := by
  induction front generalizing done with
  | nil => rfl
  | cons segment front ih =>
    have longer : front ++ rest ≠ [] := List.append_ne_nil_of_right_ne_nil front more
    rw [List.cons_append, resolve_cons longer, ih, List.foldl_cons]

/-- The last segment of a path, if it names something. -/
theorem resolve_last {last : List Char} (proper : IsProper last) (done : List (List Char)) :
    resolve done [last] = done.reverse ++ [last] := by
  rw [resolve, proper.1, proper.2, if_neg Bool.false_ne_true, if_neg Bool.false_ne_true,
    List.reverse_cons]

/-- Segments that name something are kept. -/
theorem foldl_enter_of_proper {names : List (List Char)} (proper : ∀ name ∈ names, IsProper name)
    (done : List (List Char)) : names.foldl enter done = names.reverse ++ done := by
  induction names generalizing done with
  | nil => rfl
  | cons name names ih =>
    obtain ⟨first, later⟩ := List.forall_mem_cons.1 proper
    rw [List.foldl_cons, enter_of_proper first, ih later, List.reverse_cons, List.append_assoc,
      List.singleton_append]

/-! ## Written paths -/

/-- Segments as a path, each behind a slash. -/
def written (segments : List (List Char)) : List Char :=
  segments.flatMap fun segment => '/' :: segment.flatMap (escapedUnless isPathChar)

theorem written_append (front back : List (List Char)) :
    written (front ++ back) = written front ++ written back :=
  List.flatMap_append ..

/-- A path may hold every character of the names. -/
def ArePlain (names : List (List Char)) : Prop :=
  ∀ name ∈ names, ∀ c ∈ name, isPathChar c = true

theorem flatMap_escaped_of_plain {name : List Char} (plain : ∀ c ∈ name, isPathChar c = true) :
    name.flatMap (escapedUnless isPathChar) = name := by
  induction name with
  | nil => rfl
  | cons c name ih =>
    obtain ⟨first, later⟩ := List.forall_mem_cons.1 plain
    rw [List.flatMap_cons, escapedUnless, if_pos first, ih later, List.singleton_append]

/-- Names that need no escape are written as they are. -/
theorem written_of_plain {names : List (List Char)} (plain : ArePlain names) :
    written names ++ ['/'] = '/' :: folder names := by
  induction names with
  | nil => rfl
  | cons name names ih =>
    obtain ⟨first, later⟩ := List.forall_mem_cons.1 plain
    rw [written, List.flatMap_cons, flatMap_escaped_of_plain first, List.append_assoc,
      folder_cons, ← ih later]
    rfl

/-! ## Names behind a path -/

/-- The segments of a path that are done when it is left, last first. -/
def entered (path : List Char) : List (List Char) :=
  if path = [] then [] else (segments (path.drop 1)).foldl enter []

/-- A path with a text behind it is resolved from where it is left. -/
theorem pathChars_slash_append (path cs : List Char) :
    pathChars (path ++ '/' :: cs) = written (resolve (entered path) (segments cs)) := by
  have parts : pathChars (path ++ '/' :: cs) =
      written (resolve [] (segments ((path ++ '/' :: cs).drop 1))) := rfl
  rw [parts, entered]
  cases path with
  | nil => rfl
  | cons c path =>
    rw [if_neg (List.cons_ne_nil c path), List.cons_append, List.drop_succ_cons, List.drop_zero,
      List.drop_succ_cons, List.drop_zero, segments_append_separator rfl,
      resolve_append (segments_ne_nil cs)]

section

variable {names left : List (List Char)}

/-- Names behind a path are put on its stack, one after another. -/
theorem pathChars_folder (single : AreSingle names) (path : List Char) :
    pathChars (path ++ '/' :: folder names) =
      written (names.foldl enter (entered path)).reverse ++ ['/'] := by
  have proper : IsProper [] := ⟨rfl, rfl⟩
  rw [pathChars_slash_append, segments_folder single, resolve_append (List.cons_ne_nil _ _),
    resolve_last proper, written_append]
  rfl

/-- The names that are left on the stack stand behind the path. -/
theorem pathChars_of_left {path : List Char} (single : AreSingle names) (plain : ArePlain left)
    (kept : names.foldl enter (entered path) = left.reverse ++ entered path) :
    pathChars (path ++ '/' :: folder names) = pathChars (path ++ ['/']) ++ folder left := by
  have bare : pathChars (path ++ ['/']) = written (entered path).reverse ++ ['/'] :=
    pathChars_folder (List.forall_mem_nil _) path
  rw [pathChars_folder single, kept, bare, List.reverse_append, List.reverse_reverse,
    written_append, List.append_assoc, List.append_assoc, written_of_plain plain,
    List.singleton_append]

end

end CloudInventory.Url
