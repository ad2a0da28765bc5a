import Mathlib.Computability.Language
import Mathlib.Data.List.TakeWhile
import HeaderScan.Text.Front

namespace HeaderScan
namespace Text

open scoped Computability

/-!
Longest fronts of texts in a language.

A language says which words there are, and a scanner takes the longest of them off the front of a
text.  Reading part by part finds the longest word only if no part can take up what the part
before it has left over: `IsLongestFront.append` asks that no word of the second language begins
with a character out of which the words of the first are made.
-/

/-- A front of a text that is a word of a language, and than which no other is longer. -/
structure IsLongestFront (language : Language Char) (front text : List Char) : Prop where
  isFront : front <+: text
  isWord : front ∈ language
  longest : ∀ word ∈ language, word <+: text -> word.length ≤ front.length

/-- A front of a text that is a word of a language, and than which no other is shorter. -/
structure IsShortestFront (language : Language Char) (front text : List Char) : Prop where
  isFront : front <+: text
  isWord : front ∈ language
  shortest : ∀ word ∈ language, word <+: text -> front.length ≤ word.length

/-- There is only one shortest front. -/
theorem IsShortestFront.unique {language : Language Char} {front other text : List Char}
    (isFirst : IsShortestFront language front text)
    (isSecond : IsShortestFront language other text) : front = other := by
  have atMost := isFirst.shortest other isSecond.isWord isSecond.isFront
  have atLeast := isSecond.shortest front isFirst.isWord isFirst.isFront
  have isPrefix := List.prefix_of_prefix_length_le isFirst.isFront isSecond.isFront atMost
  exact isPrefix.eq_of_length_le atLeast

/-! ## Languages of character classes -/

/-- The words of one character from a class. -/
def anyOf (inClass : Char → Bool) : Language Char :=
  {word | ∃ c, inClass c = true ∧ word = [c]}

/-- The words of a language and the empty word. -/
def optional (language : Language Char) : Language Char :=
  1 + language

theorem mem_anyOf {inClass : Char → Bool} {word : List Char} :
    word ∈ anyOf inClass ↔ ∃ c, inClass c = true ∧ word = [c] :=
  Iff.rfl

theorem mem_optional {language : Language Char} {word : List Char} :
    word ∈ optional language ↔ word = [] ∨ word ∈ language := by
  rw [optional, Language.mem_add, Language.mem_one]

/-- The words repeated from a class are the runs of its characters. -/
theorem mem_kstar_anyOf {inClass : Char → Bool} {word : List Char} :
    word ∈ (anyOf inClass)∗ ↔ ∀ c ∈ word, inClass c = true := by
  rw [Language.mem_kstar]
  constructor
  · rintro ⟨pieces, rfl, fromClass⟩ c member
    rcases List.mem_flatten.mp member with ⟨piece, isPiece, inPiece⟩
    rcases fromClass piece isPiece with ⟨d, inside, rfl⟩
    rw [List.mem_singleton.mp inPiece]
    exact inside
  · intro inside
    refine ⟨word.map ([·]), (List.flatMap_singleton' word).symm, ?_⟩
    intro piece isPiece
    rcases List.mem_map.mp isPiece with ⟨c, member, rfl⟩
    exact ⟨c, inside c member, rfl⟩

/-! ## Of what the words are made, and with what they begin -/

/-- All words consist of characters from a class. -/
def MadeOf (language : Language Char) (inClass : Char → Bool) : Prop :=
  ∀ word ∈ language, ∀ c ∈ word, inClass c = true

/-- All words but the empty one begin with a character from a class. -/
def BeginsWith (language : Language Char) (inClass : Char → Bool) : Prop :=
  ∀ c later, c :: later ∈ language -> inClass c = true

variable {first second language : Language Char} {inClass inFirst inSecond : Char → Bool}

theorem madeOf_anyOf (inClass : Char → Bool) : MadeOf (anyOf inClass) inClass := by
  rintro word ⟨d, inside, rfl⟩ c member
  rw [List.mem_singleton.mp member]
  exact inside

theorem madeOf_kstar (inClass : Char → Bool) : MadeOf (anyOf inClass)∗ inClass :=
  fun _ isWord => mem_kstar_anyOf.mp isWord

theorem MadeOf.optional (made : MadeOf language inClass) : MadeOf (optional language) inClass := by
  intro word isWord c member
  rcases mem_optional.mp isWord with rfl | isWord
  · cases member
  · exact made word isWord c member

theorem MadeOf.mul (madeFirst : MadeOf first inClass) (madeSecond : MadeOf second inClass) :
    MadeOf (first * second) inClass := by
  intro word isWord c member
  rcases Language.mem_mul.mp isWord with ⟨front, isFront, back, isBack, rfl⟩
  rcases List.mem_append.mp member with inFront | inBack
  · exact madeFirst front isFront c inFront
  · exact madeSecond back isBack c inBack

theorem MadeOf.mono (made : MadeOf language inClass)
    (wider : ∀ c, inClass c = true -> inFirst c = true) : MadeOf language inFirst :=
  fun word isWord c member => wider c (made word isWord c member)

theorem MadeOf.beginsWith (made : MadeOf language inClass) : BeginsWith language inClass :=
  fun c _ isWord => made _ isWord c List.mem_cons_self

theorem BeginsWith.optional (begins : BeginsWith language inClass) :
    BeginsWith (optional language) inClass := by
  intro c later isWord
  rcases mem_optional.mp isWord with impossible | isWord
  · cases impossible
  · exact begins c later isWord

/-- What follows a character from a class does not matter for the beginning. -/
theorem beginsWith_anyOf_mul (inClass : Char → Bool) (later : Language Char) :
    BeginsWith (anyOf inClass * later) inClass := by
  intro c rest isWord
  rcases Language.mem_mul.mp isWord with ⟨front, ⟨d, inside, rfl⟩, back, _, joined⟩
  rw [← (List.cons.inj joined).1]
  exact inside

theorem BeginsWith.mul (beginsFirst : BeginsWith first inFirst)
    (beginsSecond : BeginsWith second inSecond) :
    BeginsWith (first * second) fun c => inFirst c || inSecond c := by
  intro c later isWord
  rcases Language.mem_mul.mp isWord with ⟨front, isFront, back, isBack, joined⟩
  cases front with
  | nil =>
    have inside := beginsSecond c later (joined ▸ isBack)
    simp [inside]
  | cons d front =>
    have same : d = c := (List.cons.inj joined).1
    have inside := beginsFirst c front (same ▸ isFront)
    simp [inside]

theorem BeginsWith.add (beginsFirst : BeginsWith first inFirst)
    (beginsSecond : BeginsWith second inSecond) :
    BeginsWith (first + second) fun c => inFirst c || inSecond c := by
  intro c later isWord
  rcases (Language.mem_add _ _ _).mp isWord with isFirst | isSecond
  · simp [beginsFirst c later isFirst]
  · simp [beginsSecond c later isSecond]

/-! ## Longest fronts -/

namespace IsLongestFront

variable {front other next text : List Char}

/-- There is only one longest front. -/
theorem unique (isFirst : IsLongestFront language front text)
    (isSecond : IsLongestFront language other text) : front = other := by
  have atMost := isSecond.longest front isFirst.isWord isFirst.isFront
  have atLeast := isFirst.longest other isSecond.isWord isSecond.isFront
  have isPrefix := List.prefix_of_prefix_length_le isFirst.isFront isSecond.isFront atMost
  exact isPrefix.eq_of_length_le atLeast

/-- The characters of a class in front of a text are its longest run. -/
theorem takeWhile (inClass : Char → Bool) (text : List Char) :
    IsLongestFront (anyOf inClass)∗ (text.takeWhile inClass) text where
  isFront := List.takeWhile_prefix _
  isWord := mem_kstar_anyOf.mpr fun _ member => List.mem_takeWhile_imp member
  longest := by
    intro word isWord isFront
    rcases isFront with ⟨back, rfl⟩
    rw [List.takeWhile_append_of_pos (mem_kstar_anyOf.mp isWord), List.length_append]
    exact Nat.le_add_right _ _

/-- A character from a class at the front of a text. -/
theorem anyOf_cons {c : Char} (inside : inClass c = true) (later : List Char) :
    IsLongestFront (anyOf inClass) [c] (c :: later) where
  isFront := by simp
  isWord := ⟨c, inside, rfl⟩
  longest := by
    rintro word ⟨d, _, rfl⟩ _
    simp

/-- Leaving a word out is shorter than any word. -/
theorem optional (isLongest : IsLongestFront language front text) :
    IsLongestFront (optional language) front text where
  isFront := isLongest.isFront
  isWord := mem_optional.mpr (Or.inr isLongest.isWord)
  longest := by
    intro word isWord isFront
    rcases mem_optional.mp isWord with rfl | isWord
    · exact Nat.zero_le _
    · exact isLongest.longest word isWord isFront

/-- Where no word begins, the empty word is the longest. -/
theorem optional_nil (absent : ∀ word ∈ language, ¬ word <+: text) :
    IsLongestFront (Text.optional language) [] text where
  isFront := List.nil_prefix
  isWord := mem_optional.mpr (Or.inl rfl)
  longest := by
    intro word isWord isFront
    rcases mem_optional.mp isWord with rfl | isWord
    · exact Nat.le_refl _
    · exact absurd isFront (absent word isWord)

/-- The first character of a text, if it is in a class. -/
theorem optionalFront (inClass : Char → Bool) (text : List Char) :
    IsLongestFront (Text.optional (anyOf inClass)) (optionalFront inClass text) text := by
  cases text with
  | nil =>
    apply optional_nil
    rintro word ⟨c, _, rfl⟩ isFront
    simp at isFront
  | cons c later =>
    rw [optionalFront_cons]
    by_cases inside : inClass c = true
    · rw [if_pos inside]
      exact (anyOf_cons inside later).optional
    · rw [if_neg inside]
      apply optional_nil
      rintro word ⟨d, within, rfl⟩ isFront
      have same : d = c := by simpa using isFront
      exact inside (same ▸ within)

/-- A longest word and behind it a longest word make a longest word of both languages, if no word
of the second begins with a character of the first.  A shorter first word would end in front of
such a character, and then nothing could follow it. -/
theorem append (isFirst : IsLongestFront first front text)
    (isSecond : IsLongestFront second next (text.drop front.length))
    (made : MadeOf first inFirst) (begins : BeginsWith second inSecond)
    (apart : ∀ c, inFirst c = true -> inSecond c = false) :
    IsLongestFront (first * second) (front ++ next) text where
  isFront := prefix_append_drop isFirst.isFront isSecond.isFront
  isWord := Language.append_mem_mul isFirst.isWord isSecond.isWord
  longest := by
    intro word isWord isFront
    rcases Language.mem_mul.mp isWord with ⟨one, isOne, two, isTwo, rfl⟩
    have oneFront : one <+: text := (List.prefix_append one two).trans isFront
    have atMost := isFirst.longest one isOne oneFront
    rcases Nat.lt_or_eq_of_le atMost with shorter | same
    · -- What comes behind the shorter word is a character of the longer one.
      have nothing : two = [] := by
        cases two with
        | nil => rfl
        | cons c later =>
          have inOther : c ∈ front := by
            have within : one ++ [c] <+: text := by
              refine List.IsPrefix.trans ?_ isFront
              exact (List.prefix_append_right_inj one).mpr (by simp)
            have covered : one ++ [c] <+: front := by
              apply List.prefix_of_prefix_length_le within isFirst.isFront
              simpa [Nat.succ_le_iff] using shorter
            exact covered.subset (by simp)
          have clash := apart c (made front isFirst.isWord c inOther)
          rw [begins c later isTwo] at clash
          cases clash
      simp only [nothing, List.append_nil, List.length_append]
      omega
    · have equal : one = front := by
        refine (List.prefix_of_prefix_length_le oneFront isFirst.isFront atMost).eq_of_length same
      have twoFront : two <+: text.drop front.length := by
        rcases isFront with ⟨back, joined⟩
        refine ⟨back, ?_⟩
        rw [← joined, equal, List.append_assoc, List.drop_left]
      have atMostNext := isSecond.longest two isTwo twoFront
      simp only [List.length_append]
      omega

/-- A longest word of one language is longest in two, if the words of the other are no longer. -/
theorem add_left (isLongest : IsLongestFront first front text)
    (shorter : ∀ word ∈ second, word <+: text -> word.length ≤ front.length) :
    IsLongestFront (first + second) front text where
  isFront := isLongest.isFront
  isWord := (Language.mem_add _ _ _).mpr (Or.inl isLongest.isWord)
  longest := by
    intro word isWord isFront
    rcases (Language.mem_add _ _ _).mp isWord with isFirst | isSecond
    · exact isLongest.longest word isFirst isFront
    · exact shorter word isSecond isFront

theorem add_right (isLongest : IsLongestFront second front text)
    (absent : ∀ word ∈ first, ¬ word <+: text) :
    IsLongestFront (first + second) front text where
  isFront := isLongest.isFront
  isWord := (Language.mem_add _ _ _).mpr (Or.inr isLongest.isWord)
  longest := by
    intro word isWord isFront
    rcases (Language.mem_add _ _ _).mp isWord with isFirst | isSecond
    · exact absurd isFront (absent word isFirst)
    · exact isLongest.longest word isSecond isFront

end IsLongestFront

end Text
end HeaderScan
