import CysAgi.Base.Lines
import CysAgi.Runs.StructuredOutput

namespace CysAgi

open Py

def fence : List Char := "```".toList

/-- A dict that was read, or `None`; nothing where what was read is more than `Json` holds. -/
def dictRead (parsed : Option (Option Json)) : Option (Option JsonDict) :=
  match parsed with
  | some none => none
  | some (some (.obj fields)) => some (some fields)
  | _ => some none

def fencedLines (stripped : List Char) : List (List Char) :=
  let lines := splitlines stripped
  let lines := if lines.head?.any fence.isPrefixOf then lines.drop 1 else lines
  if lines.getLast?.any (fun line => strip (String.ofList line) = String.ofList fence) then lines.dropLast else lines

section

variable (floats : FloatCodec)

def parseJsonText (text : String) : Option (Option JsonDict) :=
  match dictRead (readWhole floats text) with
  | some none =>
    if startsWith (strip text) (String.ofList fence) then
      dictRead (readWhole floats (strip (String.ofList (['\n'].intercalate (fencedLines (strip text).toList)))))
    else some none
  | parsed => parsed

end

def tick : Char := Char.ofNat 96

theorem fence_eq : fence = [tick, tick, tick] := by decide

theorem fence_plain : ∀ c ∈ fence, isLineEnd c = false := by
  rw [fence_eq]
  simp [tick, isLineEnd]

def fenced (tag body : List Char) : List Char := fence ++ tag ++ '\n' :: body ++ '\n' :: fence

theorem fenced_trimmed (tag body : List Char) : Trimmed (String.ofList (fenced tag body)) where
  first := by
    rw [String.toList_ofList, fenced, fence_eq]
    rfl
  last := by
    have closing : fenced tag body = fence ++ tag ++ '\n' :: body ++ ['\n', tick, tick] ++ [tick] := by
      rw [fenced, fence_eq]
      simp only [List.append_assoc, List.cons_append, List.nil_append]
    rw [String.toList_ofList, closing, List.getLast?_concat]
    rfl

theorem fencedLines_fenced {tag body : List Char} (plain : ∀ c ∈ tag, isLineEnd c = false)
    (ends : ∀ c ∈ body, isLineEnd c = true → c = '\n') :
    ['\n'].intercalate (fencedLines (fenced tag body)) = body := by
  have opening : ∀ c ∈ fence ++ tag, isLineEnd c = false :=
    List.forall_mem_append.mpr ⟨fence_plain, plain⟩
  obtain ⟨lines, -, split, joined⟩ := splitlines_before (List.cons_ne_nil _ _) fence_plain ends
  have whole : splitlines (fenced tag body) = (fence ++ tag) :: (lines ++ [fence]) := by
    rw [fenced, List.append_assoc, List.cons_append, splitlines_line opening]
    exact congrArg _ split
  have opened : fence.isPrefixOf (fence ++ tag) = true := List.isPrefixOf_iff_prefix.mpr (List.prefix_append _ _)
  have closed : strip (String.ofList fence) = String.ofList fence := by decide
  simp only [fencedLines, whole, List.head?_cons, Option.any_some, opened, if_true, List.drop_one, List.tail_cons,
    List.getLast?_concat, closed, decide_true, List.dropLast_concat]
  exact joined

theorem not_isSpace_begins : ∀ c ∈ valueSigns ++ ['-', '+', '.', 'e', 'E'], isSpace c = false := by
  simp [valueSigns, isSpace]

theorem not_isSpace_digit {c : Char} (digit : c.isDigit = true) : isSpace c = false := by
  rw [Char.isDigit_iff_toNat] at digit
  have low : ('0'.toNat) = 48 := rfl
  have high : ('9'.toNat) = 57 := rfl
  rw [isSpace, decide_eq_false_iff_not]
  simp only [List.mem_cons, List.not_mem_nil, or_false]
  omega

theorem space_begins {c : Char} (space : isSpace c = true) : c ∉ valueSigns ∧ numeralChar c = false := by
  have other : ∀ d ∈ valueSigns ++ ['-', '+', '.', 'e', 'E'], c ≠ d := by
    rintro d member rfl
    rw [not_isSpace_begins c member] at space
    cases space
  have digit : c.isDigit = false := by
    apply Bool.eq_false_iff.mpr
    intro digit
    rw [not_isSpace_digit digit] at space
    cases space
  rw [List.forall_mem_append] at other
  refine ⟨fun member => other.1 c member rfl, ?_⟩
  have signs := other.2
  simp only [List.forall_mem_cons] at signs
  simp [numeralChar, numberChar, digit, signs]

theorem readWhole_tick (floats : FloatCodec) {before : List Char} (blank : ∀ c ∈ before, isSpace c = true)
    (rest : List Char) : readWhole floats (String.ofList (before ++ tick :: rest)) = none := by
  have sign : skipSpace (tick :: rest) = tick :: rest := List.dropWhile_cons_of_neg (by decide)
  cases words : skipSpace before with
  | nil =>
    have start : skipSpace (before ++ tick :: rest) = tick :: rest := by rw [skipSpace_append, if_pos words, sign]
    exact readWhole_sign start (by decide) (by decide)
  | cons c more =>
    have start : skipSpace (before ++ tick :: rest) = c :: (more ++ tick :: rest) := by
      rw [skipSpace_append, words, if_neg (List.cons_ne_nil c more), List.cons_append]
    have member : c ∈ before := mem_of_mem_skipSpace (by rw [words]; exact List.mem_cons_self)
    obtain ⟨begins, number⟩ := space_begins (blank c member)
    exact readWhole_sign start begins number

theorem readWhole_fence (floats : FloatCodec) {text : String} (opens : startsWith text (String.ofList fence) = true) :
    readWhole floats text = none := by
  rw [startsWith, List.isPrefixOf_iff_prefix, String.toList_ofList, fence_eq] at opens
  obtain ⟨rest, whole⟩ := opens
  have same : text = String.ofList ([] ++ tick :: ([tick, tick] ++ rest)) := by
    rw [← String.ofList_toList (s := text), ← whole]
    rfl
  rw [same]
  exact readWhole_tick floats (List.forall_mem_nil _) _

theorem parseJsonText_strip (floats : FloatCodec) (text : String) :
    (if startsWith (strip text) (String.ofList fence) then some none else parseJsonText floats (strip text)) =
      dictRead (readWhole floats (strip text)) := by
  by_cases opens : startsWith (strip text) (String.ofList fence) = true
  · rw [if_pos opens, readWhole_fence floats opens]
    rfl
  · have again : ¬ startsWith (strip (strip text)) (String.ofList fence) = true := by rwa [strip_strip]
    rw [if_neg opens, parseJsonText, if_neg again]
    split
    · next none_read => exact none_read.symm
    · rfl

/-- What a reply has in fences is read as it would be without them, when it is stripped and not in fences itself. -/
theorem parseJsonText_fenced {floats : FloatCodec} {before tag body after : List Char}
    (blank : ∀ c ∈ before ++ after, isSpace c = true) (plain : ∀ c ∈ tag, isLineEnd c = false)
    (ends : ∀ c ∈ body, isLineEnd c = true → c = '\n') :
    parseJsonText floats (String.ofList (before ++ fenced tag body ++ after)) =
      if startsWith (strip (String.ofList body)) (String.ofList fence) then some none
      else parseJsonText floats (strip (String.ofList body)) := by
  have trimmed := fenced_trimmed tag body
  have bare : strip (String.ofList (before ++ fenced tag body ++ after)) = String.ofList (fenced tag body) := by
    have whole : (String.ofList (before ++ fenced tag body ++ after)).toList =
        before ++ (String.ofList (fenced tag body)).toList ++ after := by
      rw [String.toList_ofList, String.toList_ofList]
    exact strip_surrounded whole blank trimmed
  have unread : readWhole floats (String.ofList (before ++ fenced tag body ++ after)) = none := by
    have start : before ++ fenced tag body ++ after =
        before ++ tick :: ([tick, tick] ++ tag ++ '\n' :: body ++ '\n' :: fence ++ after) := by
      rw [fenced, fence_eq]
      simp only [List.append_assoc, List.cons_append, List.nil_append]
    rw [start]
    exact readWhole_tick floats (List.forall_mem_append.mp blank).1 _
  have opens : startsWith (String.ofList (fenced tag body)) (String.ofList fence) = true := by
    rw [startsWith, String.toList_ofList, String.toList_ofList, List.isPrefixOf_iff_prefix]
    exact ⟨tag ++ '\n' :: body ++ '\n' :: fence, by simp only [fenced, List.append_assoc, List.cons_append]⟩
  have nothing : dictRead none = some none := rfl
  rw [parseJsonText_strip, parseJsonText, unread, nothing]
  dsimp only
  rw [bare, if_pos opens, String.toList_ofList, fencedLines_fenced plain ends]

theorem parseJsonText_fenced_answer :
    parseJsonText fractionCodec (String.ofList ([' '] ++ fenced ['j', 's', 'o', 'n'] "\x7b\"answer\":\n 42\x7d".toList ++
      ['\n'])) = some (some [("answer", .int 42)]) := by
  have blank : ∀ c ∈ [' '] ++ ['\n'], isSpace c = true := by simp [isSpace]
  have plain : ∀ c ∈ ['j', 's', 'o', 'n'], isLineEnd c = false := by simp [isLineEnd]
  have ends : ∀ c ∈ "\x7b\"answer\":\n 42\x7d".toList, isLineEnd c = true → c = '\n' := by simp [isLineEnd]
  rw [parseJsonText_fenced blank plain ends]
  decide +kernel

end CysAgi
