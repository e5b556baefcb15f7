import CysAgi.Base.Splitting
import CysAgi.Base.Substitute
import CysAgi.Base.WordRuns

namespace CysAgi

open Py

structure UnicodeData where
  nfkc : String → String
  nfkd : String → String
  category : Char → String

def isZeroWidth (c : Char) : Bool :=
  [(0x200b, 0x200f), (0x202a, 0x202e), (0x2060, 0x2064), (0xfeff, 0xfeff), (0x2066, 0x2069), (0xfe00, 0xfe0f)].any
    fun (first, last) => decide (first ≤ c.toNat ∧ c.toNat ≤ last)

/-- `ZERO_WIDTH_CHARS.sub(" ", content)`. -/
def blankZeroWidth (content : String) : String :=
  String.ofList (content.toList.map fun c => if isZeroWidth c then ' ' else c)

/-- `re.sub(r"\s+", " ", content)`. -/
def collapseSpaces (content : String) : String := String.ofList (subRuns isSpace [' '] content.toList)

def stripCombiningMarks (unicode : UnicodeData) (text : String) : String :=
  String.ofList ((unicode.nfkd text).toList.filter fun c => unicode.category c ≠ "Mn")

/-- The characters that `[^a-zA-Z0-9<|>!._:\\/\\[\\]` excludes. In a raw string each `\\` is a backslash, so that the
    first `]` closes the class. -/
def inSkeletonClass (c : Char) : Bool := c.isAlphanum || c ∈ ['<', '|', '>', '!', '.', '_', ':', '\\', '/', '[']

/-- What has to follow: the rest of the pattern, `{}\\-]+`, is literal up to its `]`, which may be repeated. -/
def noiseTail : List Char := ['{', '}', '\\', '-', ']']

def noiseLength : List Char → Nat
  | [] => 0
  | c :: rest =>
    if !inSkeletonClass c && noiseTail.isPrefixOf rest then
      1 + noiseTail.length + ((rest.drop noiseTail.length).takeWhile fun d => d = ']').length
    else 0

/-- What `latin_skeleton_for_detection` does before it takes the noise away. -/
def skeletonContent (unicode : UnicodeData) (text : String) : String :=
  blankZeroWidth (stripCombiningMarks unicode (unicode.nfkc text))

def latinSkeletonForDetection (unicode : UnicodeData) (text : String) : String :=
  strip (collapseSpaces (String.ofList (subAll noiseLength [' '] (skeletonContent unicode text).toList)))

def isSkeletonChar (c : Char) : Bool := inSkeletonClass c || c ∈ ['{', '}', '-', ']']

/-- Only characters of the class and single spaces between them. -/
structure Skeleton (text : List Char) : Prop where
  chars : ∀ c ∈ text, isSkeletonChar c = true ∨ c = ' '
  single : text.IsChain fun a b => ¬ (a = ' ' ∧ b = ' ')
  first : text.head? ≠ some ' '
  last : text.getLast? ≠ some ' '

structure Spaced (text : List Char) : Prop where
  blank : ∀ c ∈ text, isSpace c = true → c = ' '
  single : text.IsChain fun a b => ¬ (isSpace a = true ∧ isSpace b = true)

/-- What is neither space nor of the class comes before what ends a match of the pattern. -/
def NoiseMarked (content : List Char) : Prop :=
  ∀ c after, c :: after <:+ content → isSpace c = false → isSkeletonChar c = false → noiseTail <+: after

theorem noiseLength_inner {first : Char} {rest : List Char} {left : Nat}
    (found : noiseLength (first :: rest) = left + 1) :
    ∀ d ∈ rest.take left, d ∈ ['{', '}', '-', ']', '\\'] := by
  rw [noiseLength] at found
  split at found
  · rename_i start
    obtain ⟨more, rfl⟩ := List.isPrefixOf_iff_prefix.mp (Bool.and_eq_true_iff.mp start).2
    rw [List.drop_left] at found
    have length : left = noiseTail.length + (more.takeWhile fun d => d = ']').length := by omega
    rw [length, List.take_length_add_append]
    intro d member
    rcases List.mem_append.mp member with fixed | closing
    · simp only [noiseTail, List.mem_cons, List.not_mem_nil, or_false] at fixed
      rcases fixed with rfl | rfl | rfl | rfl | rfl <;> simp
    · rw [← List.prefix_iff_eq_take.mp (List.takeWhile_prefix _)] at closing
      have bracket := List.mem_takeWhile_imp closing
      simp only [decide_eq_true_eq] at bracket
      simp [bracket]
  · cases found

theorem noiseLength_eq_zero_iff {c : Char} (outside : inSkeletonClass c = false) (after : List Char) :
    noiseLength (c :: after) = 0 ↔ ¬ noiseTail <+: after := by
  rw [noiseLength, outside]
  by_cases start : noiseTail <+: after
  · rw [if_pos (by simpa using start)]
    simp [start]
  · rw [if_neg (by simpa using start)]
    simp [start]

theorem mem_latinSkeleton_iff (unicode : UnicodeData) (text : String) {c : Char} (visible : isSpace c = false)
    (noise : isSkeletonChar c = false) :
    c ∈ (latinSkeletonForDetection unicode text).toList ↔
      ∃ after, c :: after <:+ (skeletonContent unicode text).toList ∧ ¬ noiseTail <+: after := by
  have classes := Bool.or_eq_false_iff.mp noise
  have blank : c ∉ [' '] := by
    intro member
    rw [List.mem_singleton.mp member] at visible
    cases visible
  have outer : c ∉ ['{', '}', '-', ']', '\\'] := by
    intro member
    have known : ['{', '}', '-', ']', '\\'].all isSkeletonChar = true := by decide
    rw [List.all_eq_true.mp known c member] at noise
    cases noise
  unfold latinSkeletonForDetection collapseSpaces subAll
  rw [mem_strip_iff visible, String.toList_ofList, mem_subRuns_iff visible blank, String.toList_ofList,
    mem_subFrom_iff outer blank (fun _ _ _ => noiseLength_inner) (by simp)]
  simp only [noiseLength_eq_zero_iff classes.1]

theorem spaced_collapseSpaces (content : String) : Spaced (collapseSpaces content).toList := by
  rw [collapseSpaces, String.toList_ofList]
  refine ⟨fun c member space => ?_, isChain_subRuns ' ' content.toList⟩
  rcases mem_subRuns member with ⟨-, kept⟩ | blank
  · rw [space] at kept
    cases kept
  · exact List.mem_singleton.mp blank

theorem Spaced.of_isInfix {text part : List Char} (spaced : Spaced text) (inside : part <:+: text) : Spaced part where
  blank c member := spaced.blank c (inside.subset member)
  single := List.IsChain.infix spaced.single inside

theorem Spaced.blanks_apart {text : List Char} (spaced : Spaced text) :
    text.IsChain fun a b => ¬ (a = ' ' ∧ b = ' ') := by
  apply spaced.single.imp
  rintro a b apart ⟨rfl, rfl⟩
  exact apart ⟨by decide, by decide⟩

theorem spaced_latinSkeleton (unicode : UnicodeData) (text : String) :
    Spaced (latinSkeletonForDetection unicode text).toList :=
  (spaced_collapseSpaces _).of_isInfix (strip_inside _)

/-- The skeleton is clean just where what is neither space nor of the class is followed by the rest of the pattern. -/
theorem latinSkeleton_iff (unicode : UnicodeData) (text : String) :
    Skeleton (latinSkeletonForDetection unicode text).toList ↔
      NoiseMarked (skeletonContent unicode text).toList := by
  constructor
  · rintro ⟨chars, -, -, -⟩ c after ends visible noise
    by_contra unmarked
    have left := (mem_latinSkeleton_iff unicode text visible noise).mpr ⟨after, ends, unmarked⟩
    rcases chars c left with known | rfl
    · rw [noise] at known
      cases known
    · cases visible
  · intro marked
    have spaced := spaced_latinSkeleton unicode text
    refine ⟨fun c member => ?_, spaced.blanks_apart, (strip_ends _).1, (strip_ends _).2⟩
    by_cases space : isSpace c = true
    · exact .inr (spaced.blank c member space)
    · rw [Bool.not_eq_true] at space
      left
      by_contra noise
      rw [Bool.not_eq_true] at noise
      obtain ⟨after, ends, unmarked⟩ := (mem_latinSkeleton_iff unicode text space noise).mp member
      exact unmarked (marked c after ends space noise)

def plainData : UnicodeData where
  nfkc text := text
  nfkd text := text
  category _ := "Lu"

theorem katakana_left : ¬ Skeleton (latinSkeletonForDetection plainData "castオoff").toList := by
  have left : 'オ' ∈ (latinSkeletonForDetection plainData "castオoff").toList := by decide
  intro clean
  have known := clean.chars 'オ' left
  revert known
  decide

end CysAgi
