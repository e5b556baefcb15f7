import CysAgi.Base.EscapedWords
import CysAgi.Base.JsonChunks
import CysAgi.Base.Search
import CysAgi.Runtime.BlockedGlobs

namespace CysAgi

open Py Search

def letters (text : String) : List (Item Char) := text.toList.map .letter

/-- `[_-]?`. -/
def joint : List (Item Char) := [.maybe ['_', '-']]

def sensitiveParamPatterns : List (List (Item Char)) :=
  [letters "api" ++ joint ++ letters "key", letters "password", letters "secret", letters "token", letters "credential",
    letters "private" ++ joint ++ letters "key", letters "парол" ++ [.run], letters "токен" ++ [.run],
    letters "секрет" ++ [.run], letters "ключ" ++ [.run]]

/-- What the check uses of Python: `str.lower`, the word characters of `re` and the text of floats. -/
structure GuardLibrary extends Lowering where
  capital {c : Char} : 'A' ≤ c → c ≤ 'Z' → char c = [c.toLower]
  word : Char → Bool
  floats : FloatRepr

variable (python : GuardLibrary)

/-- `re.search` of a listed pattern in the lowered text. -/
def GuardLibrary.finds (text : String) : Bool :=
  sensitiveParamPatterns.any fun pattern => search python.word pattern (python.lower text).toList

def validateToolCall (_toolName : String) (parameters : JsonDict) : Except PyExc Unit :=
  let paramsStr := jsonDumps python.floats (.obj parameters)
  if python.finds paramsStr then .error (.securityViolation "Parameters contain potentially sensitive data")
  else .ok ()

section

variable {python}

def sensitiveWords : List (List Char) := sensitiveParamPatterns.flatMap spellings

theorem finds_iff (text : String) :
    python.finds text = true ↔ ∃ word ∈ sensitiveWords, word <:+: (python.lower text).toList := by
  have last : (sensitiveParamPatterns.all runLast) = true := by decide
  unfold GuardLibrary.finds sensitiveWords
  simp only [List.any_eq_true, List.mem_flatMap]
  constructor
  · rintro ⟨pattern, listed, found⟩
    obtain ⟨word, spelled, stands⟩ := (search_iff python.word (List.all_eq_true.mp last pattern listed) _).mp found
    exact ⟨word, ⟨pattern, listed, spelled⟩, stands⟩
  · rintro ⟨word, ⟨pattern, listed, spelled⟩, stands⟩
    exact ⟨pattern, listed, (search_iff python.word (List.all_eq_true.mp last pattern listed) _).mpr
      ⟨word, spelled, stands⟩⟩

theorem char_ascii {c : Char} (small : c.toNat < 128) : python.char c = [c.toLower] := by
  by_cases capital : 'A' ≤ c ∧ c ≤ 'Z'
  · exact python.capital capital.1 capital.2
  · rw [toLower_of_small capital]
    exact python.ascii small capital

theorem lowerFrom_ascii {text : List Char} (small : ∀ c ∈ text, c.toNat < 128) (before : List Char) :
    python.lowerFrom before text = text.map Char.toLower := by
  induction text generalizing before with
  | nil => rfl
  | cons c rest ih =>
    rw [List.forall_mem_cons] at small
    have sigma : c ≠ 'Σ' := by
      rintro rfl
      exact absurd small.1 (by decide)
    rw [Lowering.lowerFrom, Lowering.piece, if_neg sigma, char_ascii small.1, ih small.2]
    rfl

theorem lower_ascii {text : String} (small : ∀ c ∈ text.toList, c.toNat < 128) :
    (python.lower text).toList = text.toList.map Char.toLower := by
  rw [Lowering.lower, String.toList_ofList, lowerFrom_ascii small]

theorem toLower_ascii {c : Char} (small : c.toNat < 128) : c.toLower.toNat < 128 := by
  have each : ∀ n : Fin 128, (Char.ofNat n.val).toLower.toNat < 128 := by decide
  have here := each ⟨c.toNat, small⟩
  dsimp only at here
  rwa [Char.ofNat_toNat] at here

def englishWords : List (List Char) := (sensitiveParamPatterns.take 6).flatMap spellings

def EnglishLetter (c : Char) : Prop := c.toNat = 45 ∨ c.toNat = 95 ∨ 97 ≤ c.toNat ∧ c.toNat ≤ 122

instance (c : Char) : Decidable (EnglishLetter c) :=
  inferInstanceAs (Decidable (c.toNat = 45 ∨ c.toNat = 95 ∨ 97 ≤ c.toNat ∧ c.toNat ≤ 122))

theorem english_listed {word : List Char} (english : word ∈ englishWords) : word ∈ sensitiveWords := by
  obtain ⟨pattern, early, spelled⟩ := List.mem_flatMap.mp english
  exact List.mem_flatMap.mpr ⟨pattern, List.mem_of_mem_take early, spelled⟩

theorem foreign_or_english {word : List Char} (listed : word ∈ sensitiveWords) :
    (∃ c ∈ word, 128 ≤ c.toNat) ∨ word ∈ englishWords := by
  have each : (sensitiveWords.all fun word =>
      word.any (fun c => decide (128 ≤ c.toNat)) || englishWords.contains word) = true := by decide
  have here := List.all_eq_true.mp each word listed
  simpa only [Bool.or_eq_true, List.any_eq_true, decide_eq_true_eq, List.contains_iff_mem] using here

theorem english_letters {word : List Char} (english : word ∈ englishWords) : ∀ c ∈ word, EnglishLetter c := by
  have each : (englishWords.all fun word => word.all fun c => decide (EnglishLetter c)) = true := by decide
  intro c member
  exact of_decide_eq_true (List.all_eq_true.mp (List.all_eq_true.mp each word english) c member)

theorem english_own {word : List Char} (english : word ∈ englishWords) : ∃ own ∈ word, signChar own = false := by
  have each : (englishWords.all fun word => word.any fun own => !signChar own) = true := by decide
  obtain ⟨own, inside, unsigned⟩ := List.any_eq_true.mp (List.all_eq_true.mp each word english)
  exact ⟨own, inside, (Bool.not_eq_true' _).mp unsigned⟩

def startsApart : List Char → Bool
  | x :: y :: _ => !decide (EscapePair x y)
  | _ => false

theorem english_start {word : List Char} (english : word ∈ englishWords) :
    ∃ x y tail, word = x :: y :: tail ∧ ¬ EscapePair x y := by
  have each : englishWords.all startsApart = true := by decide
  have here := List.all_eq_true.mp each word english
  unfold startsApart at here
  split at here
  · next x y tail =>
    rw [Bool.not_eq_true', decide_eq_false_iff_not] at here
    exact ⟨x, y, tail, rfl, here⟩
  · cases here

theorem foreign_absent {word text : List Char} (foreign : ∃ c ∈ word, 128 ≤ c.toNat)
    (small : ∀ c ∈ text, c.toNat < 128) : ¬ word <:+: text.map Char.toLower := by
  intro found
  obtain ⟨c, member, large⟩ := foreign
  obtain ⟨d, there, same⟩ := List.mem_map.mp (found.subset member)
  have low := toLower_ascii (small d there)
  rw [same] at low
  omega

theorem english_infix_dumps {word : List Char} (english : word ∈ englishWords) (floats : FloatRepr) (value : Json) :
    word <:+: (jsonDumps floats value).toList.map Char.toLower ↔
      ∃ text ∈ value.strings, word <:+: (escaped text).toList.map Char.toLower := by
  obtain ⟨own, inside, unsigned⟩ := english_own english
  have free : '"' ∉ word := fun quoted => absurd (english_letters english _ quoted) (by decide)
  have apart : ∀ d, signChar d = true → d.toLower ≠ own := by
    intro d sign same
    rw [(signChar_small sign).2] at same
    rw [same, unsigned] at sign
    cases sign
  have split := infix_chunks free (by decide) inside apart (plain_chunks floats value) (List.forall_mem_nil _)
  rw [List.nil_append] at split
  rw [jsonDumps, String.toList_ofList]
  refine split.trans ?_
  simp only [string_mem_chunks]

theorem escape_visible {c : Char} (low : 32 ≤ c.toNat) (high : c.toNat ≤ 126) (quote : c.toNat ≠ 34)
    (backslash : c.toNat ≠ 92) : escape c = [c] := by
  have apart : ∀ d : Char, d.toNat < 32 → c ≠ d := by
    rintro d small rfl
    omega
  have unquoted : c ≠ '"' := fun same => quote (congrArg Char.toNat same)
  have unslashed : c ≠ '\\' := fun same => backslash (congrArg Char.toNat same)
  rw [escape, if_neg unquoted, if_neg unslashed, if_neg (apart _ (by decide)), if_neg (apart _ (by decide)), if_neg (apart _ (by decide)),
    if_neg (apart _ (by decide)), if_neg (apart _ (by decide)), if_pos ⟨low, high⟩]

theorem escape_of_english {c : Char} (letter : EnglishLetter c.toLower) : escape c = [c] := by
  by_cases capital : 'A' ≤ c ∧ c ≤ 'Z'
  · have low : 65 ≤ c.toNat := capital.1
    have high : c.toNat ≤ 90 := capital.2
    exact escape_visible (by omega) (by omega) (by omega) (by omega)
  · rw [toLower_of_small capital] at letter
    unfold EnglishLetter at letter
    exact escape_visible (by omega) (by omega) (by omega) (by omega)

theorem escapePair_toLower {x y : Char} (pair : EscapePair x y) : EscapePair x.toLower y.toLower := by
  have small : (('\\' :: 'u' :: hexDigits).all fun c => decide (c.toLower = c)) = true := by decide
  have same := fun c member => of_decide_eq_true (List.all_eq_true.mp small c member)
  rcases pair with rfl | ⟨first, second⟩
  · exact .inl rfl
  · have left := same x (List.mem_cons_of_mem _ first)
    have right := same y (by
      rcases List.mem_cons.mp second with rfl | digit
      · exact List.mem_cons_self
      · exact List.mem_cons_of_mem _ (List.mem_cons_of_mem _ digit))
    rw [left, right]
    exact .inr ⟨first, second⟩

/-- The word stands in the text in small or capital letters of ASCII, where its first letter may also be the end of an
    escape. -/
def StandsEscaped (word text : List Char) : Prop :=
  ∃ c rest d, c :: rest <:+ text ∧ (escape c).getLast? = some d ∧ word <+: (d :: rest).map Char.toLower

theorem english_infix_escaped {word : List Char} (english : word ∈ englishWords) (text : String) :
    word <:+: (escaped text).toList.map Char.toLower ↔ StandsEscaped word text.toList := by
  obtain ⟨x, y, tail, start, first⟩ := english_start english
  have letters := english_letters english
  have visible : ∀ {spelling : List Char}, word = spelling.map Char.toLower → ∀ c ∈ spelling, escape c = [c] := by
    rintro spelling rfl c member
    exact escape_of_english (letters _ (List.mem_map_of_mem member))
  have split : ∀ {spelling : List Char}, word = spelling.map Char.toLower →
      ∃ a b more, spelling = a :: b :: more ∧ ¬ EscapePair a b := by
    intro spelling same
    rw [start] at same
    obtain ⟨a, others, rfl, rfl, others_same⟩ := List.map_eq_cons_iff.mp same.symm
    obtain ⟨b, more, rfl, rfl, -⟩ := List.map_eq_cons_iff.mp others_same
    exact ⟨a, b, more, rfl, fun pair => first (escapePair_toLower pair)⟩
  rw [escaped, String.toList_ofList, List.infix_map_iff]
  constructor
  · rintro ⟨spelling, found, same⟩
    obtain ⟨a, b, more, rfl, apart⟩ := split same
    have later : ∀ c ∈ b :: more, escape c = [c] := fun c member => visible same c (List.mem_cons_of_mem a member)
    obtain ⟨c, rest, suffix, last, begins⟩ := (infix_escaped_iff apart later _).mp found
    refine ⟨c, rest, a, suffix, last, List.prefix_map_iff.mpr ⟨a :: b :: more, ?_, same⟩⟩
    exact List.cons_prefix_cons.mpr ⟨rfl, begins⟩
  · rintro ⟨c, rest, d, suffix, last, stands⟩
    obtain ⟨spelling, begins, same⟩ := List.prefix_map_iff.mp stands
    obtain ⟨a, b, more, rfl, apart⟩ := split same
    have later : ∀ c ∈ b :: more, escape c = [c] := fun c member => visible same c (List.mem_cons_of_mem a member)
    obtain ⟨rfl, goes_on⟩ := List.cons_prefix_cons.mp begins
    exact ⟨a :: b :: more, (infix_escaped_iff apart later _).mpr ⟨c, rest, suffix, last, goes_on⟩, same⟩

theorem validateToolCall_raises_iff (toolName : String) (parameters : JsonDict) :
    validateToolCall python toolName parameters =
        .error (.securityViolation "Parameters contain potentially sensitive data") ↔
      ∃ text ∈ (Json.obj parameters).strings, ∃ word ∈ englishWords, StandsEscaped word text.toList := by
  have whole : python.finds (jsonDumps python.floats (.obj parameters)) = true ↔
      ∃ text ∈ (Json.obj parameters).strings, ∃ word ∈ englishWords, StandsEscaped word text.toList := by
    have ascii := dumps_ascii python.floats (.obj parameters)
    rw [finds_iff, lower_ascii ascii]
    constructor
    · rintro ⟨word, listed, found⟩
      rcases foreign_or_english listed with foreign | english
      · exact absurd found (foreign_absent foreign ascii)
      · obtain ⟨text, string, stands⟩ := (english_infix_dumps english _ _).mp found
        exact ⟨text, string, word, english, (english_infix_escaped english text).mp stands⟩
    · rintro ⟨text, string, word, english, stands⟩
      have found := (english_infix_escaped english text).mpr stands
      exact ⟨word, english_listed english, (english_infix_dumps english _ _).mpr ⟨text, string, found⟩⟩
  rw [← whole, validateToolCall]
  split
  · next found => exact ⟨fun _ => found, fun _ => rfl⟩
  · next missed => exact ⟨nofun, fun found => absurd found missed⟩

theorem standsEscaped_of_infix {word : List Char} (english : word ∈ englishWords) {text : List Char}
    (found : word <:+: text.map Char.toLower) : StandsEscaped word text := by
  obtain ⟨start, begins, suffix⟩ := List.infix_iff_prefix_suffix.mp found
  obtain ⟨spelling, inside, rfl⟩ := List.suffix_map_iff.mp suffix
  obtain ⟨x, y, tail, rfl, -⟩ := english_start english
  cases spelling with
  | nil => cases List.prefix_nil.mp begins
  | cons c rest =>
    have first : x = c.toLower := (List.cons_prefix_cons.mp begins).1
    have plain : escape c = [c] := escape_of_english (first ▸ english_letters english x List.mem_cons_self)
    exact ⟨c, rest, c, inside, by rw [plain]; rfl, begins⟩

theorem validateToolCall_english (toolName : String) {parameters : JsonDict} {text : String}
    (string : text ∈ (Json.obj parameters).strings) {word : List Char} (english : word ∈ englishWords)
    (stands : word <:+: text.toList.map Char.toLower) :
    validateToolCall python toolName parameters =
      .error (.securityViolation "Parameters contain potentially sensitive data") :=
  (validateToolCall_raises_iff toolName parameters).mpr
    ⟨text, string, word, english, standsEscaped_of_infix english stands⟩

end

/-- A sensitive word in a string is caught exactly where an English one stands in some string. -/
theorem validateToolCall_catches_iff (toolName : String) (parameters : JsonDict) :
    ((∃ text ∈ (Json.obj parameters).strings, python.finds text = true) →
        validateToolCall python toolName parameters =
          .error (.securityViolation "Parameters contain potentially sensitive data")) ↔
      (∀ text ∈ (Json.obj parameters).strings, python.finds text = false) ∨
        ∃ text ∈ (Json.obj parameters).strings, ∃ word ∈ englishWords, StandsEscaped word text.toList := by
  rw [validateToolCall_raises_iff]
  constructor
  · intro caught
    by_cases said : ∃ text ∈ (Json.obj parameters).strings, python.finds text = true
    · exact .inr (caught said)
    · refine .inl fun text member => ?_
      by_contra found
      exact said ⟨text, member, eq_true_of_ne_false found⟩
  · rintro (nothing | stands) ⟨text, member, found⟩
    · rw [nothing text member] at found
      cases found
    · exact stands

def guardLibrary : GuardLibrary where
  toLowering := asciiLowering
  capital {c} low high := by
    have small : asciiLowering.char c = [Char.ofNat (c.toNat + 32)] := if_pos ⟨low, high⟩
    have least : 65 ≤ c.toNat := low
    have most : c.toNat ≤ 90 := high
    have each : ∀ n : Fin 26, Char.ofNat (n.val + 97) = (Char.ofNat (n.val + 65)).toLower := by decide
    have here := each ⟨c.toNat - 65, by omega⟩
    have up : c.toNat - 65 + 97 = c.toNat + 32 := by omega
    have back : c.toNat - 65 + 65 = c.toNat := by omega
    rw [small]
    dsimp only at here
    rw [up, back, Char.ofNat_toNat] at here
    rw [here]
  word c := c.isAlphanum || c = '_' || ('а' ≤ c && c ≤ 'я')
  floats := fractions

/-- A Russian password goes through. -/
theorem russian_password_missed :
    ¬ ∀ parameters : JsonDict, (∃ text ∈ (Json.obj parameters).strings, guardLibrary.finds text = true) →
      validateToolCall guardLibrary "send_mail" parameters =
        .error (.securityViolation "Parameters contain potentially sensitive data") := by
  intro caught
  have raised := caught [("note", .str "пароль: x")] ⟨"пароль: x", by decide, by decide⟩
  revert raised
  decide

end CysAgi
