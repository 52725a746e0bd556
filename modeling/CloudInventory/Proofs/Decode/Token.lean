import CloudInventory.Vocabularies

/-!
# Lawful vocabularies

The tokens of a vocabulary are distinct, so the token of a known value is read as
that value again.

Results:
1. `Token.ofText_of_known?`: a written token is read back.
2. `Token.map_ofText_known?`: an optional value that is sent comes back unless it is
   not recognized.
3. `Token.ofText_eq_iff`: a text is read as the value that has exactly this token, and as
   `unrecognized` if there is none.
-/

namespace CloudInventory

/-- A vocabulary in which no token stands for two values. -/
class LawfulVocabulary (α : Type) [Vocabulary α] : Prop where
  distinct : (Token.all α).Nodup

namespace Token

variable {α : Type} [Vocabulary α] [DecidableEq α]

/-- The token of a known value is read as the value. -/
theorem ofText_of_known? [LawfulVocabulary α] {value : α} {token : String}
    (known : known? value = some token) : ofText token = value := by
  obtain ⟨before, after, table, -⟩ := List.lookup_eq_some_iff.1 known
  have distinct := LawfulVocabulary.distinct (α := α)
  rw [all, table, List.map_append, List.map_cons] at distinct
  -- An earlier entry with the token would make the token occur twice in the table.
  have absent : before.find? (fun entry => entry.2 == token) = none := by
    rw [List.find?_eq_none]
    intro entry member same
    have repeated : token ∈ before.map Prod.snd :=
      List.mem_map.2 ⟨entry, member, beq_iff_eq.1 same⟩
    exact (List.nodup_append.1 distinct).2.2 token repeated token List.mem_cons_self rfl
  have found : (Vocabulary.known (α := α)).find? (fun entry => entry.2 == token) =
      some (value, token) := by
    rw [table, List.find?_append, absent, Option.none_or]
    exact List.find?_cons_of_pos (beq_self_eq_true token)
  rw [ofText, found]

/-- A sent value comes back unless it is not recognized. -/
theorem map_ofText_known? [LawfulVocabulary α] (value : Option α) :
    (value.bind known?).map ofText = value.filter isRecognized := by
  cases value with
  | none => rfl
  | some value =>
    rw [Option.bind_some]
    cases known : known? value with
    | none => exact (Option.filter_some_neg (by simp [isRecognized, known])).symm
    | some token =>
      rw [Option.map_some, ofText_of_known? known]
      exact (Option.filter_some_pos (by simp [isRecognized, known])).symm

/-- A value that came back is sent as before. -/
theorem bind_known?_filter (value : Option α) :
    (value.filter isRecognized).bind known? = value.bind known? := by
  cases value with
  | none => rfl
  | some value =>
    cases known : known? value with
    | none =>
      rw [Option.filter_some_neg (by simp [isRecognized, known]), Option.bind_some, known]
      rfl
    | some token => rw [Option.filter_some_pos (by simp [isRecognized, known])]

end Token

/-! ## Exact vocabularies -/

/-- A lawful vocabulary that lists every value once, `unrecognized` apart. -/
class ExactVocabulary (α : Type) [Vocabulary α] [DecidableEq α] : Prop
    extends LawfulVocabulary α where
  values : ((Vocabulary.known (α := α)).map Prod.fst).Nodup
  known?_eq_none : ∀ value : α, Token.known? value = none ↔ value = Vocabulary.unrecognized

instance : ExactVocabulary DriveStatus where
  distinct := by decide
  values := by decide
  known?_eq_none := by rintro (_ | _) <;> decide

instance : ExactVocabulary MediaType where
  distinct := by decide
  values := by decide
  known?_eq_none := by rintro (_ | _) <;> decide

instance : ExactVocabulary ServerStatus where
  distinct := by decide
  values := by decide
  known?_eq_none := by rintro (_ | _) <;> decide

instance : ExactVocabulary DeviceEmulationType where
  distinct := by decide
  values := by decide
  known?_eq_none := by rintro (_ | _) <;> decide

instance : ExactVocabulary NicModel where
  distinct := by decide
  values := by decide
  known?_eq_none := by rintro (_ | _) <;> decide

instance : ExactVocabulary IpConfigurationType where
  distinct := by decide
  values := by decide
  known?_eq_none := by rintro (_ | _) <;> decide

instance : ExactVocabulary InterfaceType where
  distinct := by decide
  values := by decide
  known?_eq_none := by rintro (_ | _) <;> decide

instance : ExactVocabulary FirewallAction where
  distinct := by decide
  values := by decide
  known?_eq_none := by rintro (_ | _) <;> decide

instance : ExactVocabulary FirewallDirection where
  distinct := by decide
  values := by decide
  known?_eq_none := by rintro (_ | _) <;> decide

instance : ExactVocabulary FirewallIpProtocol where
  distinct := by decide
  values := by decide
  known?_eq_none := by rintro (_ | _) <;> decide

instance : ExactVocabulary TagResourceType where
  distinct := by decide
  values := by decide
  known?_eq_none := by rintro (_ | _) <;> decide

instance : ExactVocabulary SubscriptionStatus where
  distinct := by decide
  values := by decide
  known?_eq_none := by rintro (_ | _) <;> decide

instance : ExactVocabulary SubscriptionResource where
  distinct := by decide
  values := by decide
  known?_eq_none := by rintro (_ | _) <;> decide

instance : ExactVocabulary ImageType where
  distinct := by decide
  values := by decide
  known?_eq_none := by rintro (_ | _) <;> decide

namespace Token

variable {α : Type} [Vocabulary α] [DecidableEq α] [ExactVocabulary α]

/-- An entry of the table is the token of its value. -/
theorem known?_of_mem {value : α} {token : String}
    (entry : (value, token) ∈ Vocabulary.known (α := α)) : known? value = some token := by
  have distinct := ExactVocabulary.values (α := α)
  rw [known?]
  generalize Vocabulary.known (α := α) = table at entry distinct
  induction table with
  | nil => cases entry
  | cons head table ih =>
    rw [List.map_cons, List.nodup_cons] at distinct
    rw [List.lookup_cons]
    rcases List.mem_cons.1 entry with rfl | later
    · rw [beq_self_eq_true]
    · have different : (value == head.1) = false := by
        rw [beq_eq_false_iff_ne]
        rintro rfl
        exact distinct.1 (List.mem_map.2 ⟨_, later, rfl⟩)
      rw [different]
      exact ih later distinct.2

/-- The value that a text is read as has this token, if it has any. -/
theorem eq_of_known?_ofText {text token : String}
    (known : known? (ofText text : α) = some token) : token = text := by
  rw [ofText] at known
  split at known
  next entry found =>
    have same := List.find?_some found
    rw [known?_of_mem (List.mem_of_find?_eq_some found)] at known
    exact (Option.some.inj known).symm.trans (beq_iff_eq.1 same)
  next missing =>
    rw [(ExactVocabulary.known?_eq_none _).2 rfl] at known
    cases known

/-- A text is read as the value that has exactly this token, and as `unrecognized` if no
value has it. -/
theorem ofText_eq_iff {text : String} {value : α} :
    ofText text = value ↔ known? value = some text ∨
      (value = Vocabulary.unrecognized ∧ ∀ other : α, known? other ≠ some text) := by
  constructor
  · rintro rfl
    cases known : known? (ofText text : α) with
    | some token => exact .inl (congrArg some (eq_of_known?_ofText known))
    | none =>
      refine .inr ⟨(ExactVocabulary.known?_eq_none _).1 known, fun other has => ?_⟩
      rw [ofText_of_known? has, has] at known
      cases known
  · rintro (known | ⟨rfl, missing⟩)
    · exact ofText_of_known? known
    · cases known : known? (ofText text : α) with
      | some token => exact absurd (eq_of_known?_ofText known ▸ known) (missing _)
      | none => exact (ExactVocabulary.known?_eq_none _).1 known

end Token

end CloudInventory
