import HeapQuery.Menu
import HeapQuery.Proofs.Labels

namespace HeapQuery.Menu

/-- The labels of the texts between slashes. Those of white space alone have none. -/
inductive Labelled : List (List Char) → List (Nat × String) → Prop where
  | nil : Labelled [] []
  | blank {labels : List (Nat × String)} : Text.Trims text [] → Labelled rest labels →
      Labelled (text :: rest) labels
  | segment {inner : List Char} {labels : List (Nat × String)} : Text.Trims text inner →
      inner ≠ [] → Label.Parts inner label → Labelled rest labels →
      Labelled (text :: rest) (label :: labels)

variable {text inner : List Char} {label : Nat × String}

def labelsIn (texts : List (List Char)) : List (Nat × String) :=
  ((texts.map fun cs => Text.trim (String.ofList cs)).filter fun text => !text.isEmpty).map
    Label.split

theorem labelsIn_blank (h : Text.Trims text []) (rest : List (List Char)) :
    labelsIn (text :: rest) = labelsIn rest := by
  have htrim : Text.trim (String.ofList text) = "" := by
    rw [Text.trim, String.toList_ofList, Text.trims_iff.mp h]
  rw [labelsIn, List.map_cons, htrim, List.filter_cons_of_neg (by decide)]
  rfl

theorem labelsIn_segment (h : Text.Trims text inner) (hne : inner ≠ [])
    (hlabels : Label.Parts inner label) (rest : List (List Char)) :
    labelsIn (text :: rest) = label :: labelsIn rest := by
  have htrim : Text.trim (String.ofList text) = String.ofList inner := by
    rw [Text.trim, String.toList_ofList, Text.trims_iff.mp h]
  have hkept : (!(String.ofList inner).isEmpty) = true := by simpa using hne
  simp only [labelsIn, List.map_cons, htrim, List.filter_cons, hkept, ↓reduceIte,
    Label.parts_iff.mp hlabels]

theorem labelled_labelsIn (texts : List (List Char)) : Labelled texts (labelsIn texts) := by
  induction texts with
  | nil => exact .nil
  | cons text rest ih =>
    have htrims : Text.Trims text (Text.trimEnd (Text.trimStart text)) := Text.trims_iff.mpr rfl
    cases hinner : Text.trimEnd (Text.trimStart text) with
    | nil =>
      rw [hinner] at htrims
      rw [labelsIn_blank htrims]
      exact .blank htrims ih
    | cons c cs =>
      rw [hinner] at htrims
      have hlabels : Label.Parts (c :: cs) (Label.split (String.ofList (c :: cs))) :=
        Label.parts_iff.mpr rfl
      rw [labelsIn_segment htrims (by simp) hlabels]
      exact .segment htrims (by simp) hlabels ih

/-- The labels of a category are those of the texts between its slashes. -/
theorem labelled_iff {category : String} {labels : List (Nat × String)} :
    Labelled (category.toList.splitOn '/') labels ↔ segments category = labels := by
  change _ ↔ labelsIn (category.toList.splitOn '/') = labels
  generalize category.toList.splitOn '/' = texts
  constructor
  · intro h
    induction h with
    | nil => rfl
    | blank htrims _ ih => rw [labelsIn_blank htrims, ih]
    | segment htrims hne hlabels _ ih => rw [labelsIn_segment htrims hne hlabels, ih]
  · rintro rfl
    exact labelled_labelsIn _

end HeapQuery.Menu
