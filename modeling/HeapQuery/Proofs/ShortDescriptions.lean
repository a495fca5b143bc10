import HeapQuery.Heap.Histogram
import HeapQuery.Proofs.LastMarks
import HeapQuery.Query.Spec
import Mathlib.Data.List.Basic

namespace HeapQuery.Query

def unmarked (description : List Char) : List Char :=
  (description.dropSuffix? " ...".toList).getD description

/-- A beginning of the text with something in it, short enough for a description. -/
structure IsBeginning (text cs : List Char) : Prop where
  nonempty : cs ≠ []
  fits : cs.length ≤ shortLength
  begins : cs <+: text

def isBlankAt (text : List Char) (position : Nat) : Bool := text[position]?.any Text.isBlank

/-- Where there is a period that fits, white space stands behind the first one. -/
def PeriodEndsWord (text : List Char) : Prop :=
  '.' ∈ text.take shortLength → isBlankAt text (text.idxOf '.' + 1) = true

/-- What short descriptions of a long text look like: it is cut behind a period, or at a space and
marked, where no period fits. -/
inductive CutShort (text : List Char) : List Char → Prop
  | sentence : text = sentence ++ '.' :: rest → '.' ∉ sentence → sentence.length < shortLength →
      CutShort text (sentence ++ ['.'])
  | words : text = words ++ ' ' :: rest → '.' ∉ text.take shortLength → words ≠ [] →
      words.length < shortLength → CutShort text (words ++ " ...".toList)

variable {cs words text : List Char}

theorem beforeLastSpace?_eq (hword : ' ' ∉ word) (hwords : words ≠ []) :
    beforeLastSpace? (words ++ ' ' :: word) = some words := by
  obtain ⟨c, rest, hback⟩ : ∃ c rest, words.reverse = c :: rest :=
    List.exists_cons_of_ne_nil (by simpa using hwords)
  rw [beforeLastSpace?, Text.dropWhile_last words hword, hback]
  simp [← hback]

/-- A mark among the first characters of a text is a mark of the text. -/
theorem split_taken (h : text.take n = before ++ mark :: after) :
    text = before ++ mark :: (after ++ text.drop n) ∧ before.length < n := by
  have hlength := congrArg List.length h
  rw [List.length_take, List.length_append, List.length_cons] at hlength
  refine ⟨?_, by omega⟩
  rw [← List.cons_append, ← List.append_assoc, ← h, List.take_append_drop]

theorem shorten_sentence (hhead : text.take shortLength = sentence ++ '.' :: rest)
    (hnot : '.' ∉ sentence) : shorten text = sentence ++ ['.'] := by
  rw [shorten, hhead, if_pos (by simp), List.takeWhile_append_of_pos (Text.ne_of_not_mem hnot),
    List.takeWhile_cons_of_neg (by simp), List.append_nil]

theorem shorten_words (hhead : text.take shortLength = words ++ ' ' :: word) (hword : ' ' ∉ word)
    (hnot : '.' ∉ text.take shortLength) (hwords : words ≠ []) :
    shorten text = words ++ " ...".toList := by
  rw [shorten, if_neg (by simpa using hnot), hhead, beforeLastSpace?_eq hword hwords,
    Option.getD_some]

/-- Long text that does not begin with a space, but has one that fits, is cut short. -/
theorem shorten_cut (hspace : ' ' ∈ text.take shortLength) (hstart : text.head? ≠ some ' ') :
    CutShort text (shorten text) := by
  by_cases hperiod : '.' ∈ text.take shortLength
  · obtain ⟨sentence, after, hhead, hnot⟩ := List.eq_append_cons_of_mem hperiod
    obtain ⟨htext, hshort⟩ := split_taken hhead
    rw [shorten_sentence hhead hnot]
    exact .sentence htext hnot hshort
  · obtain ⟨words, word, hhead, hword⟩ := Text.split_at_last hspace
    obtain ⟨htext, hshort⟩ := split_taken hhead
    have hwords : words ≠ [] := by
      intro he
      subst he
      exact hstart (by rw [htext]; rfl)
    rw [shorten_words hhead hword hperiod hwords]
    exact .words htext hperiod hwords hshort

theorem unmarked_marked (cs : List Char) : unmarked (cs ++ " ...".toList) = cs := by
  have hdrop : (cs ++ " ...".toList).dropSuffix? " ...".toList = some cs := by
    apply List.dropSuffix?_eq_some_iff.mpr
    exact ⟨" ...".toList, rfl, beq_self_eq_true _⟩
  rw [unmarked, hdrop, Option.getD_some]

/-- A sentence is not taken for a marked text: the mark has more than one period. -/
theorem unmarked_sentence (h : '.' ∉ cs) : unmarked (cs ++ ['.']) = cs ++ ['.'] := by
  have hdrop : (cs ++ ['.']).dropSuffix? " ...".toList = none := by
    apply Option.eq_none_iff_forall_ne_some.mpr
    intro rest hrest
    obtain ⟨mark, hmark, he⟩ := List.dropSuffix?_eq_some_iff.mp hrest
    rw [eq_of_beq he] at hmark
    have hcs : cs = rest ++ " ..".toList := by
      have hsplit : cs ++ ['.'] = rest ++ " ..".toList ++ ['.'] := by
        rw [hmark, List.append_assoc]
        rfl
      exact List.append_cancel_right hsplit
    apply h
    rw [hcs]
    simp
  rw [unmarked, hdrop, Option.getD_none]

theorem CutShort.beginning (h : CutShort text cs) : IsBeginning text (unmarked cs) := by
  cases h with
  | @sentence sentence rest htext hnot hshort =>
    rw [unmarked_sentence hnot]
    refine ⟨by simp, ?_, rest, by simp [htext]⟩
    rw [List.length_append, List.length_singleton]
    exact hshort
  | @words words rest htext hnot hwords hshort =>
    rw [unmarked_marked]
    exact ⟨hwords, Nat.le_of_lt hshort, ' ' :: rest, htext.symm⟩

/-- A cut at a space is between words; one behind a period is if white space follows it. -/
theorem CutShort.at_blank_iff (h : CutShort text cs) :
    isBlankAt text (unmarked cs).length = true ↔ PeriodEndsWord text := by
  cases h with
  | @sentence sentence rest htext hnot hshort =>
    have hindex : text.idxOf '.' = sentence.length := by
      rw [htext, List.idxOf_append_of_notMem hnot, List.idxOf_cons_self, Nat.add_zero]
    have hperiod : '.' ∈ text.take shortLength := by
      apply (List.mem_take_iff_idxOf_lt (by simp [htext])).mpr
      rwa [hindex]
    rw [unmarked_sentence hnot, List.length_append, List.length_singleton, PeriodEndsWord, hindex]
    exact ⟨fun hblank _ => hblank, fun hblank => hblank hperiod⟩
  | @words words rest htext hnot hwords hshort =>
    have hblank : isBlankAt text words.length = true := by
      rw [isBlankAt, htext, List.getElem?_append_right (Nat.le_refl _), Nat.sub_self]
      rfl
    rw [unmarked_marked]
    exact ⟨fun _ hperiod => absurd hperiod hnot, fun _ => hblank⟩

variable {q : Query} {help : String}

theorem shortDescription?_long (h : q.help = some help)
    (hlong : shortLength < (Text.trim help).length) :
    q.shortDescription? = some (String.ofList (shorten (Text.trim help).toList)) := by
  have hlength : ¬ (Text.trim help).toList.length ≤ shortLength := by
    rw [String.length_toList]
    exact Nat.not_le.mpr hlong
  simp only [shortDescription?, h, Option.map_some, if_neg hlength]

/-- The description for long help begins it. It ends where white space follows unless the first
period that fits stands within a word. -/
theorem short_description_ends_word_iff (h : q.help = some help)
    (hlong : shortLength < (Text.trim help).length)
    (hspace : ' ' ∈ (Text.trim help).toList.take shortLength) :
    ∃ description, q.shortDescription? = some description ∧
      IsBeginning (Text.trim help).toList (unmarked description.toList) ∧
      (isBlankAt (Text.trim help).toList (unmarked description.toList).length = true ↔
        PeriodEndsWord (Text.trim help).toList) := by
  have hstart : (Text.trim help).toList.head? ≠ some ' ' := by
    intro he
    exact absurd (Text.head_trim help ' ' he) (by decide)
  have hcut := shorten_cut hspace hstart
  refine ⟨_, shortDescription?_long h hlong, ?_⟩
  rw [String.toList_ofList]
  exact ⟨hcut.beginning, hcut.at_blank_iff⟩

def explained (help : String) : QuerySpec where
  command := Heap.Histogram.command
  commandName := some "shows"
  help := some help

theorem explained_built (help : String) :
    ∃ p, (explained help).build .empty 0 = .ok p ∧ p.help = some help := by
  have hname : (explained help).identifier = (explained "").identifier := rfl
  have husable : ((explained "").identifier.isEmpty ||
      Text.hasBlank (explained "").identifier) = false := by
    decide
  refine ⟨⟨(explained help).query .empty [], []⟩, ?_, rfl⟩
  simp only [QuerySpec.build, hname, husable]
  rfl

def listingHelp : String :=
  "Lists every object of the selected classes with its shallow size and its retained size, sorted."

theorem listing_cut_between_words : ∃ (p : Registered) (description : String),
    p.help = some listingHelp ∧ shortLength < (Text.trim listingHelp).length ∧
    ' ' ∈ (Text.trim listingHelp).toList.take shortLength ∧
    p.shortDescription? = some description ∧
    IsBeginning (Text.trim listingHelp).toList (unmarked description.toList) ∧
    isBlankAt (Text.trim listingHelp).toList (unmarked description.toList).length = true := by
  obtain ⟨p, -, hhelp⟩ := explained_built listingHelp
  have hfits : shortLength < (Text.trim listingHelp).length ∧
      ' ' ∈ (Text.trim listingHelp).toList.take shortLength ∧
      '.' ∉ (Text.trim listingHelp).toList.take shortLength := by
    rw [← String.length_toList]
    simp only [Text.trim, listingHelp, String.toList_ofList, String.reduceToList]
    decide
  obtain ⟨hlong, hspace, hperiod⟩ := hfits
  obtain ⟨description, hshort, hbegins, hblank⟩ :=
    short_description_ends_word_iff hhelp hlong hspace
  refine ⟨p, description, hhelp, hlong, hspace, hshort, hbegins, hblank.mpr ?_⟩
  exact fun hmem => absurd hmem hperiod

def collectionsHelp : String :=
  "Shows java.util collections by size. Collections without elements come after all the others."

/-- The description ends within the name, not with the sentence. -/
theorem name_cut_at_period : ∃ p, (explained collectionsHelp).build .empty 0 = .ok p ∧
    p.help = some collectionsHelp ∧ shortLength < (Text.trim collectionsHelp).length ∧
    ' ' ∈ (Text.trim collectionsHelp).toList.take shortLength ∧
    p.shortDescription? = some "Shows java." ∧
    isBlankAt (Text.trim collectionsHelp).toList (unmarked "Shows java.".toList).length = false := by
  obtain ⟨p, hbuild, hhelp⟩ := explained_built collectionsHelp
  have hcut : shortLength < (Text.trim collectionsHelp).length ∧
      ' ' ∈ (Text.trim collectionsHelp).toList.take shortLength ∧
      shorten (Text.trim collectionsHelp).toList = "Shows java.".toList ∧
      isBlankAt (Text.trim collectionsHelp).toList (unmarked "Shows java.".toList).length =
        false := by
    rw [← String.length_toList]
    simp only [Text.trim, collectionsHelp, String.toList_ofList, String.reduceToList]
    decide
  obtain ⟨hlong, hspace, hshorten, hinside⟩ := hcut
  refine ⟨p, hbuild, hhelp, hlong, hspace, ?_, hinside⟩
  rw [shortDescription?_long hhelp hlong, hshorten, String.ofList_toList]

end HeapQuery.Query
