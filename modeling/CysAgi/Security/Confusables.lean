import CysAgi.Base.RunReplacement

namespace CysAgi

open Py

def cyrillicToLatin : List (Char × Char) :=
  [('\u0430', 'a'), ('\u0435', 'e'), ('\u043e', 'o'), ('\u0440', 'p'), ('\u0441', 'c'), ('\u0443', 'y'),
    ('\u0445', 'x'), ('\u0410', 'a'), ('\u0415', 'e'), ('\u041e', 'o'), ('\u0420', 'p'), ('\u0421', 'c'),
    ('\u0423', 'y'), ('\u0425', 'x')]

/-- `translate(_CYRILLIC_TO_LATIN)` of one character. -/
def toLatin (c : Char) : Char := (cyrillicToLatin.lookup c).getD c

def isAsciiLetter (c : Char) : Bool := ('A' ≤ c ∧ c ≤ 'Z') ∨ ('a' ≤ c ∧ c ≤ 'z')

def isCyrillic (c : Char) : Bool := '\u0400' ≤ c ∧ c ≤ '\u04ff'

def mixesScripts (token : List Char) : Bool := token.any isAsciiLetter && token.any isCyrillic

variable (word : Char → Bool)

/-- `[\w\u0400-\u04FF]`, where `word` is what `\w` takes. -/
def isTokenChar (c : Char) : Bool := word c || isCyrillic c

def foldConfusables (text : String) : String :=
  let tokens := findRuns (isTokenChar word) text.toList
  if tokens = [] then text
  else String.ofList (tokens.foldl (fun result token =>
    if mixesScripts token then
      let folded := token.map toLatin
      if folded ≠ token then replaceFirst token folded result else result
    else result) text.toList)

def translateMixed (token : List Char) : List Char := if mixesScripts token then token.map toLatin else token

def translateMixedTokens (text : String) : String :=
  String.ofList (mapRuns (isTokenChar word) translateMixed text.toList)

def confusable (token : List Char) : Bool := mixesScripts token && decide (token.map toLatin ≠ token)

theorem toLatin_cases (c : Char) : toLatin c = c ∨ (c, toLatin c) ∈ cyrillicToLatin := by
  unfold toLatin
  cases found : cyrillicToLatin.lookup c with
  | none => exact .inl rfl
  | some latin =>
    obtain ⟨before, after, same, -⟩ := List.lookup_eq_some_iff.mp found
    right
    rw [same]
    simp

theorem toLatin_toLatin (c : Char) : toLatin (toLatin c) = toLatin c := by
  have known : ∀ entry ∈ cyrillicToLatin, toLatin entry.2 = entry.2 := by decide
  rcases toLatin_cases c with same | entry
  · rw [same, same]
  · exact known _ entry

theorem map_toLatin_eq_self_iff (token : List Char) : token.map toLatin = token ↔ ∀ c ∈ token, toLatin c = c := by
  induction token with
  | nil => simp
  | cons c token ih => simp [ih]

theorem mixesScripts_mono {part token : List Char} (inside : part ⊆ token) (mixed : mixesScripts part = true) :
    mixesScripts token = true := by
  unfold mixesScripts at mixed ⊢
  rw [Bool.and_eq_true, List.any_eq_true, List.any_eq_true] at mixed ⊢
  obtain ⟨⟨letter, hasLetter, ascii⟩, other, hasOther, cyrillic⟩ := mixed
  exact ⟨⟨letter, inside hasLetter, ascii⟩, other, inside hasOther, cyrillic⟩

theorem confusable_mono {part token : List Char} (inside : part ⊆ token) (found : confusable part = true) :
    confusable token = true := by
  unfold confusable at found ⊢
  rw [Bool.and_eq_true, decide_eq_true_eq, ne_eq, map_toLatin_eq_self_iff] at found ⊢
  exact ⟨mixesScripts_mono inside found.1, fun same => found.2 fun c member => same c (inside member)⟩

theorem confusable_map_toLatin (token : List Char) : confusable (token.map toLatin) = false := by
  have same : (token.map toLatin).map toLatin = token.map toLatin := by
    rw [map_toLatin_eq_self_iff]
    intro c member
    obtain ⟨d, -, rfl⟩ := List.mem_map.mp member
    exact toLatin_toLatin d
  simp [confusable, same]

theorem settles_confusable : Settles confusable (List.map toLatin) where
  nonempty := rfl
  gone run part inside := by
    have gone : confusable (chooseRun confusable (List.map toLatin) run) = false := by
      unfold chooseRun
      split
      · exact confusable_map_toLatin run
      · rename_i kept
        exact Bool.eq_false_iff.mpr kept
    rw [← Bool.not_eq_true] at gone ⊢
    exact fun found => gone (confusable_mono inside.subset found)

theorem chooseRun_confusable : chooseRun confusable (List.map toLatin) = translateMixed := by
  funext token
  unfold chooseRun confusable translateMixed
  by_cases mixed : mixesScripts token = true
  · by_cases same : token.map toLatin = token <;> simp [mixed, same]
  · simp [mixed]

theorem toList_foldConfusables (text : String) :
    (foldConfusables word text).toList = mapRuns (isTokenChar word) translateMixed text.toList := by
  have step : (fun result token => if mixesScripts token then
      if token.map toLatin ≠ token then replaceFirst token (token.map toLatin) result else result
      else result) = replaceRun confusable (List.map toLatin) := by
    funext result token
    unfold replaceRun confusable
    by_cases mixed : mixesScripts token = true <;> simp [mixed]
  have looped := foldl_replaceRun (p := isTokenChar word) settles_confusable text.toList
  rw [chooseRun_confusable] at looped
  unfold foldConfusables
  simp only [step, ← looped]
  split
  · rename_i none
    rw [none, List.foldl_nil]
  · rw [String.toList_ofList]

theorem foldConfusables_separated {separator : Char} (other : isTokenChar word separator = false)
    (before after : String) :
    foldConfusables word (before ++ String.singleton separator ++ after) =
      foldConfusables word before ++ String.singleton separator ++ foldConfusables word after := by
  rw [← String.toList_inj, toList_foldConfusables]
  simp only [String.toList_append, String.toList_singleton, List.append_assoc, List.singleton_append,
    mapRuns_cons_append other, toList_foldConfusables]

theorem foldConfusables_token {token : String} (inside : ∀ c ∈ token.toList, isTokenChar word c = true) :
    (foldConfusables word token).toList = translateMixed token.toList := by
  rw [toList_foldConfusables, mapRuns_run inside]

/-- The loop that replaces first occurrences folds just the tokens that mix the scripts, each in its place. -/
theorem foldConfusables_eq (text : String) : foldConfusables word text = translateMixedTokens word text := by
  rw [← String.toList_inj, toList_foldConfusables, translateMixedTokens, String.toList_ofList]

end CysAgi
