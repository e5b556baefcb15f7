import CysAgi.Base.RepeatedRuns
import CysAgi.Security.Confusables
import CysAgi.Security.Normalization

namespace CysAgi

open Py

/-- What `.` takes in a pattern. -/
def isDot (c : Char) : Bool := c ≠ '\n'

/-- `re.sub(r"(.)\1{3,}", r"\1", content)`. -/
def collapseRepeats (content : String) : String := String.ofList (squeeze isDot 3 content.toList)

variable (words : WordClass)

def normalizeStages (content : String) : String :=
  let content := blankZeroWidth content
  let content := foldConfusables words.isWord content
  let content := collapseSpaces content
  let content := collapseRepeats content
  strip content

def normalizeInput (unicode : UnicodeData) (content : String) : String :=
  normalizeStages words (unicode.nfkc content)

def Visible (text : List Char) : Prop := ∀ c ∈ text, isZeroWidth c = false

def Folded (text : List Char) : Prop :=
  ∀ part, part <:+: text → (∀ c ∈ part, isTokenChar words.isWord c = true) → confusable part = false

/-- A text in which no stage finds anything. -/
structure NormalForm (text : String) : Prop where
  visible : Visible text.toList
  folded : Folded words text.toList
  spaced : Spaced text.toList
  unrepeated : NoRepeat isDot 3 text.toList
  trimmed : text = "" ∨ Trimmed text

variable {words} {text other : List Char}

theorem isTokenChar_blank : isTokenChar words.isWord ' ' = false := by
  unfold isTokenChar
  rw [words.ascii (by decide)]
  decide

theorem isZeroWidth_toLatin {c : Char} (visible : isZeroWidth c = false) : isZeroWidth (toLatin c) = false := by
  have known : (cyrillicToLatin.all fun entry => !isZeroWidth entry.2) = true := by decide
  rcases toLatin_cases c with same | entry
  · rw [same, visible]
  · simpa using List.all_eq_true.mp known _ entry

theorem visible_blankZeroWidth (content : String) : Visible (blankZeroWidth content).toList := by
  intro c member
  rw [blankZeroWidth, String.toList_ofList] at member
  obtain ⟨d, -, rfl⟩ := List.mem_map.mp member
  split
  · decide
  · rename_i visible
    exact Bool.eq_false_iff.mpr visible

theorem folded_foldConfusables (content : String) : Folded words (foldConfusables words.isWord content).toList := by
  intro part inside word
  rw [toList_foldConfusables, ← chooseRun_confusable] at inside
  exact settles_confusable.gone_mapRuns word inside

theorem unrepeated_collapseRepeats (content : String) : NoRepeat isDot 3 (collapseRepeats content).toList := by
  rw [collapseRepeats, String.toList_ofList]
  exact noRepeat_squeeze (by decide) content.toList

theorem Visible.foldConfusables {content : String} (visible : Visible content.toList) :
    Visible (foldConfusables words.isWord content).toList := by
  unfold Visible
  rw [toList_foldConfusables]
  refine forall_mem_mapRuns (fun run kept => ?_) visible
  unfold translateMixed
  split
  · intro c member
    obtain ⟨d, inRun, rfl⟩ := List.mem_map.mp member
    exact isZeroWidth_toLatin (kept d inRun)
  · exact kept

theorem Visible.collapseSpaces {content : String} (visible : Visible content.toList) :
    Visible (collapseSpaces content).toList := by
  intro c member
  rw [CysAgi.collapseSpaces, String.toList_ofList] at member
  rcases mem_subRuns member with ⟨stood, -⟩ | blank
  · exact visible c stood
  · rw [List.mem_singleton.mp blank]
    decide

theorem Visible.subset (visible : Visible text) (inside : other ⊆ text) : Visible other :=
  fun c member => visible c (inside member)

theorem Folded.collapseSpaces {content : String} (folded : Folded words content.toList) :
    Folded words (collapseSpaces content).toList := by
  intro part inside word
  have fresh : ' ' ∉ part := by
    intro member
    have blank := word ' ' member
    rw [isTokenChar_blank] at blank
    cases blank
  rw [CysAgi.collapseSpaces, String.toList_ofList] at inside
  exact folded part (infix_of_subRuns fresh inside) word

theorem collapseRepeats_subset (content : String) : (collapseRepeats content).toList ⊆ content.toList := by
  rw [collapseRepeats, String.toList_ofList]
  exact squeeze_subset content.toList

theorem Folded.collapseRepeats {content : String} (folded : Folded words content.toList) :
    Folded words (collapseRepeats content).toList := by
  intro part inside word
  rw [CysAgi.collapseRepeats, String.toList_ofList] at inside
  obtain ⟨whole, stood, same⟩ := infix_of_squeeze inside
  have unmixed := folded whole stood fun c member => word c ((same c).mp member)
  rw [← Bool.not_eq_true] at unmixed ⊢
  exact fun found => unmixed (confusable_mono (fun c member => (same c).mpr member) found)

theorem Folded.of_isInfix (folded : Folded words text) (inside : other <:+: text) : Folded words other :=
  fun part within => folded part (within.trans inside)

theorem Spaced.collapseRepeats {content : String} (spaced : Spaced content.toList) :
    Spaced (collapseRepeats content).toList := by
  refine ⟨fun c member => spaced.blank c (collapseRepeats_subset content member), ?_⟩
  rw [CysAgi.collapseRepeats, String.toList_ofList]
  exact isChain_squeeze spaced.single

theorem normalForm_normalizeStages (words : WordClass) (content : String) :
    NormalForm words (normalizeStages words content) := by
  have visible : Visible (foldConfusables words.isWord (blankZeroWidth content)).toList :=
    (visible_blankZeroWidth content).foldConfusables
  have folded : Folded words (foldConfusables words.isWord (blankZeroWidth content)).toList :=
    folded_foldConfusables (blankZeroWidth content)
  have spaced := spaced_collapseSpaces (foldConfusables words.isWord (blankZeroWidth content))
  have inside := strip_inside (collapseRepeats (collapseSpaces (foldConfusables words.isWord (blankZeroWidth content))))
  exact {
    visible := visible.collapseSpaces.subset (List.Subset.trans inside.subset (collapseRepeats_subset _))
    folded := folded.collapseSpaces.collapseRepeats.of_isInfix inside
    spaced := spaced.collapseRepeats.of_isInfix inside
    unrepeated := fun c dot within => unrepeated_collapseRepeats _ c dot (within.trans inside)
    trimmed := empty_or_trimmed _
  }

theorem blankZeroWidth_of_visible {content : String} (visible : Visible content.toList) :
    blankZeroWidth content = content := by
  have same : content.toList.map (fun c => if isZeroWidth c then ' ' else c) = content.toList.map id := by
    apply List.map_congr_left
    intro c member
    rw [visible c member]
    rfl
  rw [blankZeroWidth, same, List.map_id, String.ofList_toList]

theorem foldConfusables_of_folded {content : String} (folded : Folded words content.toList) :
    foldConfusables words.isWord content = content := by
  rw [← String.toList_inj, toList_foldConfusables, ← chooseRun_confusable]
  apply mapRuns_of_fixed
  intro run inside word
  unfold chooseRun
  rw [folded run inside word]
  rfl

theorem collapseSpaces_of_spaced {content : String} (spaced : Spaced content.toList) :
    collapseSpaces content = content := by
  rw [collapseSpaces, subRuns_of_isChain spaced.blank spaced.single, String.ofList_toList]

theorem collapseRepeats_of_unrepeated {content : String} (unrepeated : NoRepeat isDot 3 content.toList) :
    collapseRepeats content = content := by
  rw [collapseRepeats, squeeze_of_noRepeat unrepeated, String.ofList_toList]

theorem NormalForm.fixed {content : String} (normal : NormalForm words content) :
    normalizeStages words content = content := by
  show strip (collapseRepeats (collapseSpaces (foldConfusables words.isWord (blankZeroWidth content)))) = content
  rw [blankZeroWidth_of_visible normal.visible, foldConfusables_of_folded normal.folded,
    collapseSpaces_of_spaced normal.spaced, collapseRepeats_of_unrepeated normal.unrepeated]
  rcases normal.trimmed with rfl | trimmed
  · rfl
  · exact strip_of_trimmed trimmed

theorem normalForm_iff (content : String) : NormalForm words content ↔ normalizeStages words content = content := by
  constructor
  · exact NormalForm.fixed
  · intro same
    rw [← same]
    exact normalForm_normalizeStages words content

theorem normalForm_normalizeInput (words : WordClass) (unicode : UnicodeData) (content : String) :
    NormalForm words (normalizeInput words unicode content) := normalForm_normalizeStages words _

theorem normalizeStages_idempotent (words : WordClass) (content : String) :
    normalizeStages words (normalizeStages words content) = normalizeStages words content :=
  (normalForm_normalizeStages words content).fixed

end CysAgi
