import Mathlib.Algebra.GroupWithZero.Nat
import CysAgi.Base.Glob
import CysAgi.Runtime.ToolStack

namespace CysAgi

open Py Glob

/-- `str.lower` by its Unicode tables: what a character becomes on its own, and whether a capital sigma
    between two texts ends a word. -/
structure Lowering where
  char : Char → List Char
  final : List Char → List Char → Bool
  atMostTwo (c : Char) : (char c).length ≤ 2
  stable {c d : Char} : c ≠ 'Σ' → d ∈ char c → d ≠ 'Σ' ∧ char d = [d]
  sigma : char 'σ' = ['σ'] ∧ char 'ς' = ['ς']
  ascii {c : Char} : c.toNat < 128 → ¬('A' ≤ c ∧ c ≤ 'Z') → char c = [c]

namespace Lowering

variable (lowering : Lowering)

def piece (before : List Char) (c : Char) (after : List Char) : List Char :=
  if c = 'Σ' then [if lowering.final before after then 'ς' else 'σ'] else lowering.char c

def lowerFrom : List Char → List Char → List Char
  | _, [] => []
  | before, c :: after => lowering.piece before c after ++ lowerFrom (before ++ [c]) after

def lower (text : String) : String := String.ofList (lowering.lowerFrom [] text.toList)

def Fixed (c : Char) : Prop := c ≠ 'Σ' ∧ lowering.char c = [c]

def weight (c : Char) : Nat := if c = 'Σ' then 1 else (lowering.char c).length

theorem fixed_of_mem_piece {before after : List Char} {c d : Char} (found : d ∈ lowering.piece before c after) :
    lowering.Fixed d := by
  unfold piece at found
  split at found
  · rw [List.mem_singleton] at found
    split at found
    · rw [found]
      exact ⟨by decide, lowering.sigma.2⟩
    · rw [found]
      exact ⟨by decide, lowering.sigma.1⟩
  · rename_i other
    exact lowering.stable other found

theorem fixed_of_mem_lowerFrom {before text : List Char} {d : Char} (found : d ∈ lowering.lowerFrom before text) :
    lowering.Fixed d := by
  induction text generalizing before with
  | nil => cases found
  | cons c text ih =>
      rcases List.mem_append.mp found with here | later
      · exact lowering.fixed_of_mem_piece here
      · exact ih later

theorem lowerFrom_append (before text rest : List Char) :
    ∃ left, lowering.lowerFrom before (text ++ rest) = left ++ lowering.lowerFrom (before ++ text) rest := by
  induction text generalizing before with
  | nil => exact ⟨[], by rw [List.append_nil]; rfl⟩
  | cons c text ih =>
      obtain ⟨left, same⟩ := ih (before ++ [c])
      refine ⟨lowering.piece before c (text ++ rest) ++ left, ?_⟩
      rw [List.cons_append, lowerFrom, same, List.append_assoc, List.append_assoc]
      rfl

theorem lowerFrom_fixed {text : List Char} (fixed : ∀ c ∈ text, lowering.Fixed c) (before rest : List Char) :
    lowering.lowerFrom before (text ++ rest) = text ++ lowering.lowerFrom (before ++ text) rest := by
  induction text generalizing before with
  | nil => rw [List.append_nil]; rfl
  | cons c text ih =>
      obtain ⟨other, alone⟩ := fixed c List.mem_cons_self
      rw [List.cons_append, lowerFrom, piece, if_neg other, alone,
        ih (fun d found => fixed d (List.mem_cons_of_mem _ found)), List.append_assoc]
      rfl

theorem infix_lowerFrom {word text : List Char} (fixed : ∀ c ∈ word, lowering.Fixed c) (found : word <:+: text) :
    word <:+: lowering.lowerFrom [] text := by
  obtain ⟨front, back, rfl⟩ := found
  rw [List.append_assoc]
  obtain ⟨left, same⟩ := lowering.lowerFrom_append [] front (word ++ back)
  rw [same, lowering.lowerFrom_fixed fixed, ← List.append_assoc]
  exact ⟨left, _, rfl⟩

theorem lowerFrom_of_fixed {text : List Char} (fixed : ∀ c ∈ text, lowering.Fixed c) (before : List Char) :
    lowering.lowerFrom before text = text := by
  have same := lowering.lowerFrom_fixed fixed before []
  rwa [List.append_nil, lowerFrom, List.append_nil] at same

theorem length_lowerFrom (before text : List Char) :
    (lowering.lowerFrom before text).length = (text.map lowering.weight).sum := by
  induction text generalizing before with
  | nil => rfl
  | cons c text ih =>
      have here : (lowering.piece before c text).length = lowering.weight c := by
        unfold piece weight
        split
        · rfl
        · rfl
      rw [lowerFrom, List.length_append, ih, here, List.map_cons, List.sum_cons]

theorem fixed_of_ascii {c : Char} (ascii : c.toNat < 128) (other : ¬('A' ≤ c ∧ c ≤ 'Z')) : lowering.Fixed c := by
  refine ⟨fun same => ?_, lowering.ascii ascii other⟩
  rw [same] at ascii
  exact absurd ascii (by decide)

theorem fixed_of_all_ascii {text : List Char}
    (plain : (text.all fun c => c.toNat < 128 ∧ ¬('A' ≤ c ∧ c ≤ 'Z')) = true) : ∀ c ∈ text, lowering.Fixed c := by
  intro c found
  obtain ⟨ascii, other⟩ := of_decide_eq_true (List.all_eq_true.mp plain c found)
  exact lowering.fixed_of_ascii ascii other

theorem contains_lower_path : contains (lowering.lower "path") "path" = true := by
  have fixed : ∀ c ∈ "path".toList, lowering.Fixed c := lowering.fixed_of_all_ascii (by decide)
  have same := lowering.lowerFrom_of_fixed fixed []
  rw [contains_iff, lower, same, String.ofList_toList]

theorem Fixed.weight {c : Char} (fixed : lowering.Fixed c) : lowering.weight c = 1 := by
  rw [Lowering.weight, if_neg fixed.1, fixed.2]
  rfl

theorem weight_le (c : Char) : lowering.weight c ≤ 2 := by
  unfold weight
  split
  · decide
  · exact lowering.atMostTwo c

end Lowering

def asciiLowering : Lowering where
  char c := if 'A' ≤ c ∧ c ≤ 'Z' then [Char.ofNat (c.toNat + 32)] else [c]
  final before after := before ≠ [] ∧ after = []
  atMostTwo c := by split <;> exact Nat.le_succ 1
  stable {c d} other found := by
    split at found
    · rename_i capital
      have low : 65 ≤ c.toNat := capital.1
      have high : c.toNat ≤ 90 := capital.2
      have letters : ∀ n, n < 26 → Char.ofNat (n + 97) ≠ 'Σ' ∧
          ¬('A' ≤ Char.ofNat (n + 97) ∧ Char.ofNat (n + 97) ≤ 'Z') := by decide
      have same : c.toNat + 32 = c.toNat - 65 + 97 := by omega
      rw [List.mem_singleton.mp found, same]
      exact ⟨(letters _ (by omega)).1, if_neg (letters _ (by omega)).2⟩
    · rename_i small
      rw [List.mem_singleton.mp found]
      exact ⟨other, if_neg small⟩
  sigma := by decide
  ascii _ small := if_neg small

def cleanOf (pattern : List Char) : List Char := pattern.filter (· ≠ '*')

namespace ScopePolicy

def HonoursGlobs (policy : ScopePolicy) (lowering : Lowering) : Prop :=
  ∀ key value : String, contains (lowering.lower key) "path" = true →
    (∃ pattern ∈ policy.blockedPathPatterns, fnmatch value pattern = true) →
    policy.checkPathArg lowering.lower key value ≠ none

theorem denied_iff (policy : ScopePolicy) (lowering : Lowering) {key : String} (value : String)
    (named : contains (lowering.lower key) "path" = true) :
    policy.checkPathArg lowering.lower key value ≠ none ↔
      ∃ pattern ∈ policy.blockedPathPatterns, cleanOf pattern.toList ≠ [] ∧
        cleanOf pattern.toList <:+: lowering.lowerFrom [] value.toList := by
  have each (pattern : String) :
      (let clean := String.ofList (pattern.toList.filter (· ≠ '*'))
       clean ≠ "" && contains (lowering.lower value) clean) = true ↔
        cleanOf pattern.toList ≠ [] ∧ cleanOf pattern.toList <:+: lowering.lowerFrom [] value.toList := by
    rw [Bool.and_eq_true, decide_eq_true_eq, contains_iff, Lowering.lower, String.toList_ofList, String.toList_ofList,
      ← cleanOf, Ne, String.ofList_eq_empty_iff]
  rw [checkPathArg, if_neg (not_not_intro named)]
  simp only [← each, ← List.any_eq_true]
  split
  · rename_i matched
    exact iff_of_true (Option.some_ne_none _) matched
  · rename_i unmatched
    exact iff_of_false (not_not_intro rfl) unmatched

end ScopePolicy

def Lowering.PlainGlob (lowering : Lowering) (pattern : String) : Prop :=
  ∃ (leading : Nat) (letters : List Char) (trailing : Nat), letters ≠ [] ∧ (∀ c ∈ letters, lowering.Fixed c) ∧
    tokens pattern.toList = List.replicate leading .star ++ letters.map .lit ++ List.replicate trailing .star

/-- A pattern with a set that has no member. -/
def Unmatchable (pattern : String) : Prop := ∃ stuff, .set stuff ∈ tokens pattern.toList ∧ ∀ c, member stuff c = false

theorem Unmatchable.not_matches {pattern : String} (empty : Unmatchable pattern) (text : List Char) :
    ¬Matches (tokens pattern.toList) text := by
  obtain ⟨stuff, found, none⟩ := empty
  intro fit
  obtain ⟨c, inside⟩ := member_of_matches fit found
  rw [none c] at inside
  cases inside

theorem exists_match_of_not_unmatchable {pattern : String} (filled : ¬Unmatchable pattern) :
    ∃ text, Matches (tokens pattern.toList) text := by
  refine exists_matches fun stuff found => ?_
  by_contra none
  exact filled ⟨stuff, found, fun c => Bool.eq_false_of_not_eq_true fun inside => none ⟨c, inside⟩⟩

theorem cleanOf_eq_flatMap (pattern : List Char) :
    cleanOf pattern = (tokens pattern).flatMap fun token => token.text.filter (· ≠ '*') := by
  conv_lhs => rw [cleanOf, ← flatMap_text_tokens pattern, List.filter_flatMap]

theorem mem_cleanOf {pattern : List Char} {token : Token} {c : Char} (found : token ∈ tokens pattern)
    (inside : c ∈ token.text) (other : c ≠ '*') : c ∈ cleanOf pattern := by
  rw [cleanOf_eq_flatMap, List.mem_flatMap]
  exact ⟨token, found, List.mem_filter.mpr ⟨inside, decide_eq_true other⟩⟩

theorem cleanOf_eq_filler {pattern : List Char}
    (simple : ∀ token ∈ tokens pattern, token = .star ∨ ∃ c, token = .lit c) :
    cleanOf pattern = (tokens pattern).flatMap Token.filler := by
  rw [cleanOf_eq_flatMap]
  refine List.flatMap_congr fun token found => ?_
  rcases simple token found with rfl | ⟨c, rfl⟩
  · rfl
  · have other := (lit_of_mem_tokensFrom found).1
    simp [Token.text, Token.filler, other]

theorem filler_stars (count : Nat) : (List.replicate count Token.star).flatMap Token.filler = [] := by
  rw [List.flatMap_replicate, Token.filler]
  simp

theorem filler_lits (letters : List Char) : (letters.map Token.lit).flatMap Token.filler = letters := by
  induction letters with
  | nil => rfl
  | cons letter letters ih =>
      rw [List.map_cons, List.flatMap_cons, ih]
      rfl

theorem cleanOf_stars_around {pattern : List Char} {leading trailing : Nat} {letters : List Char}
    (parsed : tokens pattern =
      List.replicate leading .star ++ letters.map .lit ++ List.replicate trailing .star) :
    cleanOf pattern = letters := by
  have simple : ∀ token ∈ tokens pattern, token = .star ∨ ∃ c, token = .lit c := by
    intro token found
    rw [parsed, List.mem_append, List.mem_append] at found
    rcases found with (front | middle) | back
    · exact Or.inl (List.eq_of_mem_replicate front)
    · obtain ⟨c, _, same⟩ := List.mem_map.mp middle
      exact Or.inr ⟨c, same.symm⟩
    · exact Or.inl (List.eq_of_mem_replicate back)
  rw [cleanOf_eq_filler simple, parsed, List.flatMap_append, List.flatMap_append, filler_stars, filler_stars,
    filler_lits, List.nil_append, List.append_nil]

theorem Lowering.PlainGlob.denied {lowering : Lowering} {pattern : String} (plain : lowering.PlainGlob pattern)
    {text : List Char} (fit : Matches (tokens pattern.toList) text) :
    cleanOf pattern.toList ≠ [] ∧ cleanOf pattern.toList <:+: lowering.lowerFrom [] text := by
  obtain ⟨leading, letters, trailing, some, fixed, parsed⟩ := plain
  rw [cleanOf_stars_around parsed]
  rw [parsed] at fit
  exact ⟨some, lowering.infix_lowerFrom fixed (infix_of_matches fit)⟩

theorem member_star_of_stars {stuff : List Char} (stars : ∀ c ∈ stuff, c = '*') (given : stuff ≠ []) :
    member stuff '*' = true := by
  rcases stuff with _ | ⟨first, _ | ⟨second, rest⟩⟩
  · exact absurd rfl given
  · rw [stars first List.mem_cons_self]
    decide
  · rw [stars first List.mem_cons_self, stars second (List.mem_cons_of_mem _ List.mem_cons_self)]
    rfl

theorem exists_light_member (lowering : Lowering) {stuff : List Char} {c : Char} (inside : member stuff c = true) :
    ∃ light, member stuff light = true ∧
      lowering.weight light + 1 ≤ ((Token.set stuff).text.filter (· ≠ '*')).length := by
  have written : ((Token.set stuff).text.filter (· ≠ '*')).length = (stuff.filter (· ≠ '*')).length + 2 := by
    rw [Token.text, List.filter_cons_of_pos (by decide), List.filter_append, List.length_cons, List.length_append]
    rfl
  rw [written]
  by_cases stars : stuff.filter (· ≠ '*') = []
  · have all : ∀ c ∈ stuff, c = '*' := by
      intro c found
      by_contra other
      exact List.filter_eq_nil_iff.mp stars c found (decide_eq_true other)
    have given : stuff ≠ [] := by
      intro none
      rw [none] at inside
      cases inside
    have single : lowering.weight '*' = 1 := (lowering.fixed_of_ascii (by decide) (by decide)).weight
    exact ⟨'*', member_star_of_stars all given, by omega⟩
  · have some := List.length_pos_of_ne_nil stars
    have light := lowering.weight_le c
    exact ⟨c, inside, by omega⟩

theorem exists_short_match {lowering : Lowering} {pattern : List Token} {text : List Char} (fit : Matches pattern text)
    (fixed : ∀ c, .lit c ∈ pattern → c ≠ '*' ∧ lowering.Fixed c) :
    ∃ short, Matches pattern short ∧ (short.map lowering.weight).sum + pattern.countP Token.isSet ≤
      (pattern.flatMap fun token => token.text.filter (· ≠ '*')).length := by
  induction fit with
  | nil => exact ⟨[], .nil, Nat.le_refl _⟩
  | star _ _ ih =>
      obtain ⟨short, fit, bound⟩ := ih fun c found => fixed c (List.mem_cons_of_mem _ found)
      exact ⟨short, .star [] fit, bound⟩
  | any _ _ ih =>
      obtain ⟨short, fit, bound⟩ := ih fun c found => fixed c (List.mem_cons_of_mem _ found)
      have zero : lowering.weight '0' = 1 := (lowering.fixed_of_ascii (by decide) (by decide)).weight
      have written : (Token.any.text.filter (· ≠ '*')).length = 1 := by decide
      refine ⟨'0' :: short, .any '0' fit, ?_⟩
      simp only [List.map_cons, List.sum_cons, List.countP_cons, List.flatMap_cons, List.length_append, Token.isSet,
        Bool.false_eq_true, if_false]
      omega
  | set inside _ ih =>
      obtain ⟨short, fit, bound⟩ := ih fun c found => fixed c (List.mem_cons_of_mem _ found)
      obtain ⟨light, inside, lighter⟩ := exists_light_member lowering inside
      refine ⟨light :: short, .set inside fit, ?_⟩
      simp only [List.map_cons, List.sum_cons, List.countP_cons, List.flatMap_cons, List.length_append, Token.isSet,
        if_true]
      omega
  | lit c _ ih =>
      obtain ⟨short, fit, bound⟩ := ih fun c found => fixed c (List.mem_cons_of_mem _ found)
      obtain ⟨other, alone⟩ := fixed c List.mem_cons_self
      have single := alone.weight
      have written : ((Token.lit c).text.filter (· ≠ '*')).length = 1 := by simp [Token.text, other]
      refine ⟨c :: short, .lit c fit, ?_⟩
      simp only [List.map_cons, List.sum_cons, List.countP_cons, List.flatMap_cons, List.length_append, Token.isSet,
        Bool.false_eq_true, if_false]
      omega

theorem exists_gap (lowering : Lowering) (first last : Char) :
    ∃ gap, lowering.Fixed gap ∧ first ≠ gap ∧ last ≠ gap := by
  have digits : ∃ gap ∈ ['0', '1', '2'], first ≠ gap ∧ last ≠ gap := by
    by_contra none
    push Not at none
    have zero := or_iff_not_imp_left.mpr (none '0' (by decide))
    have one := or_iff_not_imp_left.mpr (none '1' (by decide))
    have two := or_iff_not_imp_left.mpr (none '2' (by decide))
    grind
  obtain ⟨gap, listed, other, another⟩ := digits
  have fixed : ∀ c ∈ ['0', '1', '2'], lowering.Fixed c := lowering.fixed_of_all_ascii (by decide)
  exact ⟨gap, fixed gap listed, other, another⟩

section

variable {lowering : Lowering} {pattern : List Char}
  (denied : ∀ text, Matches (tokens pattern) text →
    cleanOf pattern ≠ [] ∧ cleanOf pattern <:+: lowering.lowerFrom [] text)
  {text : List Char} (fit : Matches (tokens pattern) text)
include denied fit

theorem fixed_of_denied {c : Char} (found : c ∈ cleanOf pattern) : lowering.Fixed c :=
  lowering.fixed_of_mem_lowerFrom ((denied text fit).2.subset found)

theorem lit_fixed_of_denied {c : Char} (found : .lit c ∈ tokens pattern) : c ≠ '*' ∧ lowering.Fixed c := by
  have other := (lit_of_mem_tokensFrom found).1
  exact ⟨other, fixed_of_denied denied fit (mem_cleanOf found List.mem_cons_self other)⟩

theorem no_set_of_denied (stuff : List Char) : .set stuff ∉ tokens pattern := by
  intro found
  obtain ⟨short, fit, bound⟩ := exists_short_match fit fun c => lit_fixed_of_denied denied fit
  have sets : 0 < (tokens pattern).countP Token.isSet := List.countP_pos_iff.mpr ⟨_, found, rfl⟩
  have shorter := (denied short fit).2.length_le
  rw [lowering.length_lowerFrom, cleanOf_eq_flatMap] at shorter
  omega

theorem filler_fixed_of_denied {c : Char} (found : c ∈ (tokens pattern).flatMap Token.filler) :
    lowering.Fixed c ∧ c ≠ '?' := by
  obtain ⟨token, member, inside⟩ := List.mem_flatMap.mp found
  cases token with
  | star => cases inside
  | any =>
      rw [List.mem_singleton.mp inside]
      exact ⟨lowering.fixed_of_ascii (by decide) (by decide), by decide⟩
  | set stuff => cases inside
  | lit letter =>
      rw [List.mem_singleton.mp inside]
      exact ⟨(lit_fixed_of_denied denied fit member).2, (lit_of_mem_tokensFrom member).2⟩

theorem no_any_of_denied : .any ∉ tokens pattern := by
  intro found
  have filled := (denied _ (matches_filler (no_set_of_denied denied fit))).2
  rw [lowering.lowerFrom_of_fixed fun c inside => (filler_fixed_of_denied denied fit inside).1] at filled
  have asked : '?' ∈ cleanOf pattern := mem_cleanOf found List.mem_cons_self (by decide)
  exact (filler_fixed_of_denied denied fit (filled.subset asked)).2 rfl

theorem simple_of_denied : ∀ token ∈ tokens pattern, token = .star ∨ ∃ c, token = .lit c := by
  intro token found
  cases token with
  | star => exact Or.inl rfl
  | any => exact absurd found (no_any_of_denied denied fit)
  | set stuff => exact absurd found (no_set_of_denied denied fit stuff)
  | lit c => exact Or.inr ⟨c, rfl⟩

theorem not_parted_of_denied {before after : List Token} (parsed : tokens pattern = before ++ .star :: after)
    (opens : before.flatMap Token.filler ≠ []) : after.flatMap Token.filler = [] := by
  by_contra closes
  obtain ⟨first, front, start⟩ := List.exists_cons_of_ne_nil opens
  obtain ⟨back, last, stop⟩ := (List.eq_nil_or_concat' _).resolve_left closes
  obtain ⟨gap, alone, other, another⟩ := exists_gap lowering first last
  have noSet := no_set_of_denied denied fit
  rw [parsed] at noSet
  have passed : Matches (tokens pattern) ((first :: front) ++
      (List.replicate (front.length + back.length + 2) gap ++ (back ++ [last]))) := by
    rw [parsed, ← start, ← stop]
    exact (matches_filler fun stuff found => noSet stuff (List.mem_append_left _ found)).append
      (.star _ (matches_filler fun stuff found =>
        noSet stuff (List.mem_append_right _ (List.mem_cons_of_mem _ found))))
  have clean : cleanOf pattern = (first :: front) ++ (back ++ [last]) := by
    rw [cleanOf_eq_filler (simple_of_denied denied fit), parsed, List.flatMap_append, List.flatMap_cons, start, stop]
    rfl
  have fixed : ∀ c ∈ (first :: front) ++ (back ++ [last]), lowering.Fixed c := by
    rw [← clean]
    exact fun c => fixed_of_denied denied fit
  have found := (denied _ passed).2
  rw [clean, lowering.lowerFrom_of_fixed] at found
  · exact not_infix_spread other another found
  · intro c inside
    rcases List.mem_append.mp inside with inside | inside
    · exact fixed c (List.mem_append_left _ inside)
    · rcases List.mem_append.mp inside with filled | inside
      · rw [List.eq_of_mem_replicate filled]
        exact alone
      · exact fixed c (List.mem_append_right _ inside)

end

theorem Lowering.plainGlob_of_denied {lowering : Lowering} {pattern : String} {text : List Char}
    (denied : ∀ text, Matches (tokens pattern.toList) text →
      cleanOf pattern.toList ≠ [] ∧ cleanOf pattern.toList <:+: lowering.lowerFrom [] text)
    (fit : Matches (tokens pattern.toList) text) : lowering.PlainGlob pattern := by
  rcases stars_around_or_parted (simple_of_denied denied fit) with
    ⟨leading, letters, trailing, parsed⟩ | ⟨before, after, parsed, opens, closes⟩
  · have clean := cleanOf_stars_around parsed
    refine ⟨leading, letters, trailing, ?_, ?_, parsed⟩
    · rw [← clean]
      exact (denied text fit).1
    · rw [← clean]
      exact fun c => fixed_of_denied denied fit
  · exact absurd (not_parted_of_denied denied fit parsed opens) closes

namespace ScopePolicy

/-- For every list of patterns: the policies made of them deny whatever they match just when each of the
    patterns is plain text with stars around it, or matches nothing. -/
theorem honours_globs_iff (lowering : Lowering) (patterns : List String) :
    (∀ policy : ScopePolicy, policy.blockedPathPatterns ⊆ patterns → policy.HonoursGlobs lowering) ↔
      ∀ pattern ∈ patterns, lowering.PlainGlob pattern ∨ Unmatchable pattern := by
  constructor
  · intro honoured pattern listed
    by_contra neither
    rw [not_or] at neither
    obtain ⟨text, fit⟩ := exists_match_of_not_unmatchable neither.2
    refine neither.1 (Lowering.plainGlob_of_denied (fun text fit => ?_) fit)
    have alone : [pattern] ⊆ patterns := List.cons_subset.mpr ⟨listed, List.nil_subset _⟩
    have named := lowering.contains_lower_path
    have given : fnmatch (String.ofList text) pattern = true := by
      rw [fnmatch, fits_iff, String.toList_ofList]
      exact fit
    obtain ⟨other, member, denied⟩ := (denied_iff ⟨[], [pattern]⟩ lowering _ named).mp
      (honoured ⟨[], [pattern]⟩ alone "path" _ named ⟨pattern, List.mem_singleton_self _, given⟩)
    rw [List.mem_singleton.mp member, String.toList_ofList] at denied
    exact denied
  · intro plain policy listed key value named ⟨pattern, member, given⟩
    rw [fnmatch, fits_iff] at given
    rcases plain pattern (listed member) with plain | none
    · exact (denied_iff policy lowering value named).mpr ⟨pattern, member, plain.denied given⟩
    · exact absurd given (none.not_matches _)

theorem inner_star_and_capitals_pass :
    ¬(⟨["read_file"], ["*conf*key*"]⟩ : ScopePolicy).HonoursGlobs asciiLowering ∧
      ¬(⟨["read_file"], ["*.ENV"]⟩ : ScopePolicy).HonoursGlobs asciiLowering := by
  constructor
  · intro honoured
    exact honoured "file_path" "conf/api.key" (by decide) ⟨"*conf*key*", List.mem_singleton_self _, by decide⟩
      (by decide)
  · intro honoured
    exact honoured "file_path" "prod.ENV" (by decide) ⟨"*.ENV", List.mem_singleton_self _, by decide⟩ (by decide)

end ScopePolicy

end CysAgi
