/-
  Katapult.Observability.Reasons

  What is left of a reported error in the text that is made from it.

  The classifier is an ordered search (`classifyError_eq`), and only the text of
  an error that it does not recognise quotes the error.  `surfaces_iff` says
  which errors stand in their own text: those, and the few that are a piece of
  the summary of their category.
-/

import Katapult.Observability.Errors

namespace Katapult

/-- The reason stands in the text, and a remediation follows it. -/
def Surfaces (reason text : String) : Prop :=
  ∃ category before between, text = before ++ reason ++ between ++ remediationFor category

/-! ## The classifier -/

namespace ErrorCategory

/-- What the classifier looks for, in lower case. -/
def phrases : ErrorCategory → List String
  | .diskFull => ["no space left", "disk full", "disk quota"]
  | .permissionDenied => ["permission denied", "access denied"]
  | .networkUnreachable =>
    ["network unreachable", "connection refused", "no route to host", "connection reset"]
  | .timeout => ["timeout", "deadline exceeded", "context deadline"]
  | .s3Error => ["s3", "nosuchbucket", "accessdenied", "nosuchkey"]
  | .unknown => []

/-- The categories in the order in which they are tried. -/
def tried : List ErrorCategory :=
  [.diskFull, .permissionDenied, .networkUnreachable, .timeout, .s3Error]

/-- A phrase of the category occurs in the error, in upper or lower case. -/
def occursIn (category : ErrorCategory) (err : Err) : Bool :=
  category.phrases.any fun phrase => contains (toLower err) phrase

end ErrorCategory

theorem getD_find?_cons {α : Type} (p : α → Bool) (a : α) (rest : List α) (otherwise : α) :
    ((a :: rest).find? p).getD otherwise = if p a then a else (rest.find? p).getD otherwise := by
  cases h : p a <;> simp [h]

/-- The first category that occurs in the error. -/
theorem classifyError_eq (err : Err) :
    classifyError (some err) = (ErrorCategory.tried.find? (·.occursIn err)).getD .unknown := by
  simp only [ErrorCategory.tried, getD_find?_cons, ErrorCategory.occursIn, ErrorCategory.phrases,
    List.any_cons, List.any_nil, Bool.or_false, ← Bool.or_assoc]
  rfl

/-- A category that is recognised does occur in the error. -/
theorem occursIn_of_classifyError {err : Err} (h : classifyError (some err) ≠ .unknown) :
    (classifyError (some err)).occursIn err = true := by
  rw [classifyError_eq] at h ⊢
  cases hfind : ErrorCategory.tried.find? (·.occursIn err) with
  | none =>
    rw [hfind] at h
    exact absurd rfl h
  | some category => exact List.find?_some (p := fun c : ErrorCategory => c.occursIn err) hfind

/-- The classifier recognises nothing in the error. -/
def Unrecognised (err : Err) : Prop := ∀ category ∈ ErrorCategory.tried, category.occursIn err = false

instance (err : Err) : Decidable (Unrecognised err) :=
  inferInstanceAs (Decidable (∀ category ∈ ErrorCategory.tried, category.occursIn err = false))

theorem classifyError_eq_unknown_iff {err : Err} :
    classifyError (some err) = .unknown ↔ Unrecognised err := by
  rw [classifyError_eq]
  constructor
  · intro h
    cases hfind : ErrorCategory.tried.find? (·.occursIn err) with
    | none =>
      intro category hmem
      exact Bool.eq_false_of_not_eq_true (List.find?_eq_none.mp hfind category hmem)
    | some found =>
      rw [hfind] at h
      have hfound : found = .unknown := h
      exact absurd (hfound ▸ List.mem_of_find?_eq_some hfind) (by decide)
  · intro h
    rw [List.find?_eq_none.mpr fun category hmem => by simp [h category hmem]]
    rfl

/-! ## Pieces of a text -/

theorem contains_iff {s sub : String} : contains s sub = true ↔ sub.toList <:+: s.toList :=
  decide_eq_true_iff

theorem toLower_toList (s : String) : (toLower s).toList = s.toList.map lowerChar :=
  String.toList_map

/-- What occurs in a piece occurs in the whole. -/
theorem contains_toLower_of_piece {piece text phrase : String} (hpiece : contains text piece = true)
    (h : contains (toLower piece) phrase = true) : contains (toLower text) phrase = true := by
  refine contains_iff.mpr ((contains_iff.mp h).trans ?_)
  rw [toLower_toList, toLower_toList]
  exact (contains_iff.mp hpiece).map lowerChar

theorem ErrorCategory.occursIn_of_piece {category : ErrorCategory} {piece text : String}
    (hpiece : contains text piece = true) (h : category.occursIn piece = true) :
    category.occursIn text = true := by
  obtain ⟨phrase, hphrase, hin⟩ := List.any_eq_true.mp h
  exact List.any_eq_true.mpr ⟨phrase, hphrase, contains_toLower_of_piece hpiece hin⟩

theorem contains_of_surfaces {reason text : String} (h : Surfaces reason text) :
    contains text reason = true := by
  obtain ⟨category, before, between, rfl⟩ := h
  refine contains_iff.mpr ⟨before.toList, (between ++ remediationFor category).toList, ?_⟩
  simp only [String.toList_append, List.append_assoc]

/-! ## The text of an error -/

namespace ErrorCategory

/-- What the text of a recognised error begins with, in a context without details. -/
def lead : ErrorCategory → String
  | .diskFull => "Destination disk full. Suggested action: "
  | .permissionDenied => "Permission denied. Suggested action: "
  | .networkUnreachable => "Network unreachable. Suggested action: "
  | .timeout => "Operation timed out. Suggested action: "
  | .s3Error => "S3 operation failed. Suggested action: "
  | .unknown => ""

/-- The phrase of the category that its own text has. -/
def ownPhrase : ErrorCategory → Option String
  | .diskFull => some "disk full"
  | .permissionDenied => some "permission denied"
  | .networkUnreachable => some "network unreachable"
  | .s3Error => some "s3"
  | .timeout | .unknown => none

end ErrorCategory

theorem ErrorCategory.lead_eq {category : ErrorCategory} (h : category ≠ .unknown) (original : String) :
    summarize category original {} ++ ". Suggested action: " = category.lead := by
  cases category with
  | unknown => exact absurd rfl h
  | _ => rfl

/-- The text of a recognised error does not depend on the error. -/
theorem string_enrichError {err : Err} (h : classifyError (some err) ≠ .unknown) :
    (enrichError (some err) {}).string =
      (classifyError (some err)).lead ++ remediationFor (classifyError (some err)) := by
  rw [← ErrorCategory.lead_eq h err]
  rfl

theorem string_enrichError_unknown {err : Err} (h : classifyError (some err) = .unknown) :
    (enrichError (some err) {}).string =
      "Transfer failed: " ++ err ++ ". Suggested action: " ++ remediationFor .unknown := by
  rw [enrichError, ActionableError.string, h]
  rfl

namespace ErrorCategory

variable {category category' : ErrorCategory} {phrase : String}

/-- Of the phrases of a category, its own text has at most one. -/
theorem ownPhrase_of_lead (hphrase : phrase ∈ category.phrases)
    (h : contains (toLower category.lead) phrase = true) : category.ownPhrase = some phrase := by
  revert phrase
  simp only [contains, toLower_toList]
  cases category with
  | unknown => simp [phrases]
  | _ =>
    simp only [phrases, lead, List.forall_mem_cons]
    repeat rw [String.toList_ofList]
    decide +kernel

theorem mem_phrases_of_ownPhrase (h : category.ownPhrase = some phrase) :
    phrase ∈ category.phrases := by
  revert phrase
  cases category <;> simp [ownPhrase, phrases]

/-- The text of a category is classified as such. -/
theorem find?_lead (h : category.ownPhrase = some phrase) :
    tried.find? (·.occursIn category.lead) = some category := by
  simp only [occursIn, contains, toLower_toList]
  cases category with
  | timeout | unknown => cases h
  | _ =>
    rw [lead, String.toList_ofList]
    decide +kernel

/-- The last three characters of a remediation, from the last one on. -/
def ending : ErrorCategory → List Char
  | .diskFull => ['C', 'V', 'P']
  | .permissionDenied => ['s', 'C', 'V']
  | .networkUnreachable => ['s', 'e', 'l']
  | .timeout => ['s', 'e', 'u']
  | .s3Error => ['s', 'n', 'o']
  | .unknown => ['r', 'e', 'f']

theorem take_reverse_remediation (category : ErrorCategory) :
    (remediationFor category).toList.reverse.take 3 = category.ending := by
  cases category <;> rw [remediationFor, String.toList_ofList] <;> rfl

theorem length_ending (category : ErrorCategory) : category.ending.length = 3 := by
  cases category <;> rfl

/-- A text has only one remediation at its end. -/
theorem eq_of_remediation {text : List Char}
    (h : (remediationFor category').toList <:+ text ++ (remediationFor category).toList) :
    category' = category := by
  -- the last three characters tell the remediations apart
  have hlong := length_ending category
  rw [← take_reverse_remediation, List.length_take] at hlong
  have hends := (List.reverse_prefix.mpr h).take 3
  rw [List.reverse_append, List.take_append_of_le_length (by omega), take_reverse_remediation,
    take_reverse_remediation] at hends
  have heq := hends.eq_of_length ((length_ending _).trans (length_ending _).symm)
  revert heq
  cases category' <;> cases category <;> decide

end ErrorCategory

/-! ## The errors that stand in their own text -/

/-- The error is a piece of the text of a category, and of that category for the
    sake of the phrase that the text has. -/
def OwnWords (err : Err) : Prop :=
  ∃ category phrase, ErrorCategory.ownPhrase category = some phrase ∧
    contains (toLower err) phrase = true ∧ contains category.lead err = true

theorem classifyError_of_ownWords {err : Err} {category : ErrorCategory} {phrase : String}
    (hown : category.ownPhrase = some phrase) (hphrase : contains (toLower err) phrase = true)
    (hpiece : contains category.lead err = true) : classifyError (some err) = category := by
  have hoccurs : category.occursIn err = true :=
    List.any_eq_true.mpr ⟨phrase, ErrorCategory.mem_phrases_of_ownPhrase hown, hphrase⟩
  -- what is tried before does not occur in the whole text
  obtain ⟨-, before, after, htried, hbefore⟩ :=
    List.find?_eq_some_iff_append.mp (ErrorCategory.find?_lead hown)
  have hfind : ErrorCategory.tried.find? (·.occursIn err) = some category := by
    refine List.find?_eq_some_iff_append.mpr ⟨hoccurs, before, after, htried, fun earlier hmem => ?_⟩
    have hlead := hbefore earlier hmem
    rw [Bool.not_eq_true'] at hlead ⊢
    by_contra hin
    rw [Bool.not_eq_false] at hin
    rw [ErrorCategory.occursIn_of_piece hpiece hin] at hlead
    cases hlead
  rw [classifyError_eq, hfind]
  rfl

theorem ownWords_of_surfaces {err : Err} (hne : classifyError (some err) ≠ .unknown)
    (h : Surfaces err (enrichError (some err) {}).string) : OwnWords err := by
  obtain ⟨category', before, between, htext⟩ := h
  rw [string_enrichError hne] at htext
  have hlists := congrArg String.toList htext
  rw [String.toList_append, String.toList_append] at hlists
  -- both sides end in the same remediation, and the error is in what is left of them
  rw [ErrorCategory.eq_of_remediation ⟨_, hlists.symm⟩] at hlists
  have hlead := List.append_cancel_right hlists
  have hpiece : contains (classifyError (some err)).lead err = true := by
    refine contains_iff.mpr ⟨before.toList, between.toList, ?_⟩
    rw [hlead, String.toList_append, String.toList_append]
  obtain ⟨phrase, hmem, hphrase⟩ := List.any_eq_true.mp (occursIn_of_classifyError hne)
  exact ⟨_, phrase, ErrorCategory.ownPhrase_of_lead hmem (contains_toLower_of_piece hpiece hphrase),
    hphrase, hpiece⟩

/-- An error stands in its own text exactly if it is not recognised, or is a piece
    of that text. -/
theorem surfaces_iff (err : Err) :
    Surfaces err (enrichError (some err) {}).string ↔ Unrecognised err ∨ OwnWords err := by
  constructor
  · intro h
    by_cases hunknown : classifyError (some err) = .unknown
    · exact .inl (classifyError_eq_unknown_iff.mp hunknown)
    · exact .inr (ownWords_of_surfaces hunknown h)
  · rintro (hunknown | ⟨category, phrase, hown, hphrase, hpiece⟩)
    · rw [string_enrichError_unknown (classifyError_eq_unknown_iff.mpr hunknown)]
      exact ⟨.unknown, "Transfer failed: ", ". Suggested action: ", rfl⟩
    · have hcategory := classifyError_of_ownWords hown hphrase hpiece
      have hne : classifyError (some err) ≠ .unknown := by
        rw [hcategory]
        rintro rfl
        cases hown
      obtain ⟨before, between, hlead⟩ := contains_iff.mp hpiece
      refine ⟨category, String.ofList before, String.ofList between, ?_⟩
      rw [string_enrichError hne, hcategory]
      congr 1
      rw [← String.toList_inj, ← hlead]
      simp

end Katapult
