import HeaderScan.HiddenContent

namespace HeaderScan
namespace HiddenContent

/-!
The search as a window over the tokens.

A search keeps no tokens.  All it knows is how much of a serialization override stands right in
front of the next token, and where an override breaks off it begins anew.  Nothing is missed by
this, because the first word of an override comes nowhere else in it, so that at most one part of an
override can stand right in front of a token: `Progress.Tracks`.

`announces_findings` says that what is found at a token is decided by the texts up to it.
-/

/-- The serialization overrides, token by token. -/
def overrides : List (List String) :=
  [["void", "Serialize", "(", "FArchive"],
    ["void", "Serialize", "(", "FStructuredArchiveRecord"],
    ["void", "Serialize", "(", "FStructuredArchive", "::", "FRecord"]]

/-- The last of several texts make up a serialization override. -/
def EndsOverride (texts : List String) : Prop :=
  ∃ override ∈ overrides, override <:+ texts

/-- What a search is to find at a token, which is the last of the tokens with these texts: one thing
at most, and it is about that token. -/
structure Announces (texts : List String) (token : Token) (finding : Option Diagnostic) :
    Prop where
  hiddenMacro_iff :
    (∃ diagnostic ∈ finding, diagnostic.code = .hiddenMacro) ↔ token.text ∈ macros
  hiddenSerializer_iff :
    (∃ diagnostic ∈ finding, diagnostic.code = .hiddenSerializer) ↔
      token.text ∉ macros ∧ EndsOverride texts
  code : ∀ diagnostic ∈ finding,
    diagnostic.code = .hiddenMacro ∨ diagnostic.code = .hiddenSerializer
  place : ∀ diagnostic ∈ finding,
    diagnostic.span = token.span ∧ diagnostic.line = token.startLine

@[simp]
theorem about_macroFinding (token : Token) :
    (macroFinding token).code = .hiddenMacro ∧ (macroFinding token).span = token.span ∧
      (macroFinding token).line = token.startLine :=
  ⟨rfl, rfl, rfl⟩

@[simp]
theorem about_serializerFinding (token : Token) :
    (serializerFinding token).code = .hiddenSerializer ∧
      (serializerFinding token).span = token.span ∧
      (serializerFinding token).line = token.startLine :=
  ⟨rfl, rfl, rfl⟩

/-! ## Parts of an override -/

namespace Progress

/-- What has been seen of an override. -/
def seen : Progress → List String
  | nothing => []
  | result => ["void"]
  | name => ["void", "Serialize"]
  | parenthesis => ["void", "Serialize", "("]
  | structured => ["void", "Serialize", "(", "FStructuredArchive"]
  | scope => ["void", "Serialize", "(", "FStructuredArchive", "::"]

/-- The text with which a part of an override ends, and the part in front of it. -/
def parted? : Progress → Option (Progress × String)
  | nothing => none
  | result => some (nothing, "void")
  | name => some (result, "Serialize")
  | parenthesis => some (name, "(")
  | structured => some (parenthesis, "FStructuredArchive")
  | scope => some (structured, "::")

/-- Whether a text completes the override of which a part has been seen. -/
def completes (progress : Progress) (text : String) : Bool :=
  match progress with
  | parenthesis => text == "FArchive" || text == "FStructuredArchiveRecord"
  | scope => text == "FRecord"
  | _ => false

/-- Behind these texts, of all parts of an override only what has been seen stands there. -/
def Tracks (progress : Progress) (texts : List String) : Prop :=
  ∀ part : Progress, part.seen <:+ texts ↔ part = nothing ∨ part = progress

variable {progress part earlier : Progress} {texts : List String} {last text : String}
  {token : Token}

theorem concat_suffix_concat_iff {front : List String} :
    front ++ [last] <:+ texts ++ [text] ↔ text = last ∧ front <:+ texts := by
  constructor
  · rintro ⟨rest, joined⟩
    rw [← List.append_assoc] at joined
    rcases List.append_inj' joined rfl with ⟨rfl, same⟩
    exact ⟨(List.head_eq_of_cons_eq same).symm, rest, rfl⟩
  · rintro ⟨rfl, rest, rfl⟩
    exact ⟨rest, (List.append_assoc _ _ _).symm⟩

theorem seen_of_parted? (isPart : part.parted? = some (earlier, last)) :
    part.seen = earlier.seen ++ [last] := by
  cases part <;> cases isPart <;> rfl

/-! ## One step -/

theorem begin_fst (token : Token) :
    (begin token).1 = if token.text ∈ macros then some (macroFinding token) else none := by
  by_cases isMacro : token.text ∈ macros
  · simp [begin, isMacro]
  · simp only [begin, List.contains_iff_mem, isMacro, if_false]
    split <;> rfl

theorem begin_snd (token : Token) :
    (begin token).2 = if token.text = "void" then result else nothing := by
  by_cases isVoid : token.text = "void"
  · have noMacro : "void" ∉ macros := by decide
    simp [begin, isVoid, noMacro]
  · simp only [begin, beq_iff_eq, isVoid, if_false]
    split <;> rfl

/-- A reflection macro is no text of an override, so that it breaks off every override. -/
theorem step_of_isMacro (isMacro : token.text ∈ macros) (progress : Progress) :
    progress.step token = begin token := by
  have distinct : ∀ text ∈ overrides.flatten, text ∉ macros := by decide
  have noText : ∀ text ∈ overrides.flatten, token.text ≠ text := by
    intro text isText same
    exact distinct text isText (same ▸ isMacro)
  simp only [overrides, List.flatten_cons, List.flatten_nil, List.cons_append, List.nil_append,
    List.forall_mem_cons] at noText
  cases progress <;> simp [step, noText]

theorem step_fst (progress : Progress) (token : Token) :
    (progress.step token).1 =
      if token.text ∈ macros then some (macroFinding token)
      else if progress.completes token.text then some (serializerFinding token)
      else none := by
  by_cases isMacro : token.text ∈ macros
  · rw [step_of_isMacro isMacro, begin_fst, if_pos isMacro, if_pos isMacro]
  · cases progress <;> simp [step, apply_ite Prod.fst, begin_fst, completes, isMacro]

/-- What is found at a token says one of two things about it. -/
theorem finding_of_stepIf {checks : Bool} {finding : Diagnostic}
    (found : finding ∈ (progress.stepIf checks token).1) :
    finding = macroFinding token ∨ finding = serializerFinding token := by
  unfold stepIf at found
  split at found
  · rw [step_fst] at found
    split at found
    · exact .inl (Option.some.inj found).symm
    split at found
    · exact .inr (Option.some.inj found).symm
    · cases found
  · cases found

theorem isHiddenContent_of_stepIf {checks : Bool} {finding : Diagnostic}
    (found : finding ∈ (progress.stepIf checks token).1) : finding.code.isHiddenContent = true := by
  rcases finding_of_stepIf found with rfl | rfl <;> rfl

/-- A search goes on by the text of a token alone. -/
theorem step_snd_of_text {other : Token} (same : token.text = other.text) :
    (progress.step token).2 = (progress.step other).2 := by
  cases progress <;> simp only [step, apply_ite Prod.snd, begin_snd, same]

/-- A token leads to a part of an override exactly if the part ends with its text, and what has been
seen before is what stands in front of that text. -/
theorem step_snd_eq_iff (isPart : part.parted? = some (earlier, last)) :
    (progress.step token).2 = part ↔
      token.text = last ∧ (earlier = nothing ∨ earlier = progress) := by
  cases progress <;> cases part <;> cases isPart <;>
    simp only [step, apply_ite Prod.snd, begin_snd] <;> grind

theorem tracks_nil : Tracks nothing [] := by
  intro part
  cases part <;> simp [seen]

theorem Tracks.seen_suffix_concat_iff (tracks : progress.Tracks texts)
    (isPart : part.parted? = some (earlier, last)) :
    part.seen <:+ texts ++ [token.text] ↔ (progress.step token).2 = part := by
  rw [seen_of_parted? isPart, concat_suffix_concat_iff, tracks earlier, step_snd_eq_iff isPart]

/-- What has been seen goes on to be all that stands there of an override. -/
theorem Tracks.step (tracks : progress.Tracks texts) (token : Token) :
    (progress.step token).2.Tracks (texts ++ [token.text]) := by
  intro part
  cases part with
  | nothing => exact ⟨fun _ => .inl rfl, fun _ => List.nil_suffix⟩
  | result | name | parenthesis | structured | scope =>
    rw [tracks.seen_suffix_concat_iff rfl, eq_comm, or_iff_right nofun]

/-- A token completes an override exactly if what has been seen lacks only the token's text. -/
theorem Tracks.endsOverride_iff (tracks : progress.Tracks texts) :
    EndsOverride (texts ++ [text]) ↔ progress.completes text = true := by
  have ends (part : Progress) (begun : part ≠ nothing) (last : String) :
      part.seen ++ [last] <:+ texts ++ [text] ↔ text = last ∧ part = progress := by
    rw [concat_suffix_concat_iff, tracks part, or_iff_right begun]
  have cut : overrides =
      [parenthesis.seen ++ ["FArchive"], parenthesis.seen ++ ["FStructuredArchiveRecord"],
        scope.seen ++ ["FRecord"]] := rfl
  simp only [EndsOverride, cut, List.mem_cons, List.not_mem_nil, or_false, or_and_right, exists_or,
    exists_eq_left]
  rw [ends parenthesis nofun, ends parenthesis nofun, ends scope nofun]
  cases progress <;> simp [completes]

/-- The step finds what the window holds. -/
theorem Tracks.announces (tracks : progress.Tracks texts) (token : Token) :
    Announces (texts ++ [token.text]) token (progress.step token).1 := by
  rw [step_fst]
  by_cases isMacro : token.text ∈ macros
  · rw [if_pos isMacro]
    constructor <;> simp [isMacro]
  · rw [if_neg isMacro]
    by_cases completes : progress.completes token.text = true
    · have ends := tracks.endsOverride_iff.mpr completes
      rw [if_pos completes]
      constructor <;> simp [isMacro, ends]
    · have lacks : ¬ EndsOverride (texts ++ [token.text]) :=
        mt tracks.endsOverride_iff.mp completes
      rw [if_neg completes]
      constructor <;> simp [isMacro, lacks]

/-- What a token gives is decided by the texts up to it, if what has been seen is what they end
with at the start. -/
theorem announces_run (tracks : progress.Tracks texts) (before : List Token) (token : Token)
    (after : List Token) :
    ∃ finding, (progress.run (before ++ token :: after))[before.length]? = some finding ∧
      Announces (texts ++ (before ++ [token]).map Token.text) token finding := by
  induction before generalizing progress texts with
  | nil => exact ⟨_, rfl, tracks.announces token⟩
  | cons first before inductionHypothesis =>
    rcases inductionHypothesis (tracks.step first) with ⟨finding, found, announces⟩
    refine ⟨finding, found, ?_⟩
    rw [List.append_assoc] at announces
    exact announces

end Progress

/-- What a search that begins with the first of some tokens gives at each of them. -/
theorem announces_findings (before : List Token) (token : Token) (after : List Token) :
    ∃ finding, (findings (before ++ token :: after))[before.length]? = some finding ∧
      Announces ((before ++ [token]).map Token.text) token finding :=
  Progress.announces_run Progress.tracks_nil before token after

/-- An override may begin within another one that breaks off. -/
example :
    (findings (["void", "Serialize", "void", "Serialize", "(", "FArchive"].map
        (.atStart .identifier (.point 0) 1 1))).map Option.isSome =
      [false, false, false, false, false, true] := by
  decide

end HiddenContent
end HeaderScan
