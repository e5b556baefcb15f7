import CysAgi.Base.Text

namespace Glob

inductive Token where
  | star
  | any
  | set (stuff : List Char)
  | lit (c : Char)
deriving DecidableEq, Repr

/-- How many characters of the text behind a `[` stand before the `]` that closes it. A `!` or a `]`
    that comes first does not close. -/
def setLength (text : List Char) : Option Nat :=
  let negated := if text[0]? = some '!' then 1 else 0
  let opened := if text[negated]? = some ']' then negated + 1 else negated
  ((text.drop opened).findIdx? (· = ']')).map (opened + ·)

/-- The tokens of a pattern of which the first `skip` characters are read already. -/
def tokensFrom : Nat → List Char → List Token
  | _, [] => []
  | skip + 1, _ :: rest => tokensFrom skip rest
  | 0, c :: rest =>
      if c = '*' then .star :: tokensFrom 0 rest
      else if c = '?' then .any :: tokensFrom 0 rest
      else if c = '[' then
        match setLength rest with
        | some length => .set (rest.take length) :: tokensFrom (length + 1) rest
        | none => .lit c :: tokensFrom 0 rest
      else .lit c :: tokensFrom 0 rest

def tokens (pattern : List Char) : List Token := tokensFrom 0 pattern

def inRanges (c : Char) : List Char → Bool
  | low :: '-' :: high :: rest => (low ≤ c ∧ c ≤ high) || inRanges c rest
  | single :: rest => c = single || inRanges c rest
  | [] => false

/-- What `[stuff]` matches. -/
def member (stuff : List Char) (c : Char) : Bool :=
  match stuff with
  | '!' :: rest => !inRanges c rest
  | _ => inRanges c stuff

def fits : List Token → List Char → Bool
  | [], text => text.isEmpty
  | .star :: rest, text => text.tails.any (fits rest)
  | .any :: rest, _ :: text => fits rest text
  | .set stuff :: rest, c :: text => member stuff c && fits rest text
  | .lit letter :: rest, c :: text => letter = c && fits rest text
  | _ :: _, [] => false

/-- `fnmatch.fnmatchcase(name, pattern)`. -/
def fnmatch (name pattern : String) : Bool := fits (tokens pattern.toList) name.toList

inductive Matches : List Token → List Char → Prop
  | nil : Matches [] []
  | star {rest text} (passed : List Char) : Matches rest text → Matches (.star :: rest) (passed ++ text)
  | any {rest text} (c : Char) : Matches rest text → Matches (.any :: rest) (c :: text)
  | set {stuff rest text} {c : Char} : member stuff c = true → Matches rest text →
      Matches (.set stuff :: rest) (c :: text)
  | lit {rest text} (c : Char) : Matches rest text → Matches (.lit c :: rest) (c :: text)

theorem fits_iff (pattern : List Token) (text : List Char) : fits pattern text = true ↔ Matches pattern text := by
  constructor
  · intro fit
    induction pattern generalizing text with
    | nil =>
        cases List.isEmpty_iff.mp fit
        exact .nil
    | cons token rest ih =>
        cases token with
        | star =>
            rw [fits, List.any_eq_true] at fit
            obtain ⟨left, member, fit⟩ := fit
            obtain ⟨passed, whole⟩ := (List.mem_tails left text).mp member
            rw [← whole]
            exact .star passed (ih left fit)
        | any =>
            cases text with
            | nil => cases fit
            | cons c text => exact .any c (ih text fit)
        | set stuff =>
            cases text with
            | nil => cases fit
            | cons c text =>
                rw [fits, Bool.and_eq_true] at fit
                exact .set fit.1 (ih text fit.2)
        | lit letter =>
            cases text with
            | nil => cases fit
            | cons c text =>
                rw [fits, Bool.and_eq_true] at fit
                cases of_decide_eq_true fit.1
                exact .lit letter (ih text fit.2)
  · intro fit
    induction fit with
    | nil => rfl
    | star passed _ ih =>
        rw [fits, List.any_eq_true]
        exact ⟨_, (List.mem_tails _ _).mpr (List.suffix_append passed _), ih⟩
    | any c _ ih => exact ih
    | set found _ ih => rw [fits, found, ih, Bool.and_self]
    | lit c _ ih => rw [fits, ih, decide_eq_true rfl, Bool.and_self]

def Token.isSet : Token → Bool
  | .set _ => true
  | _ => false

def Token.text : Token → List Char
  | .star => ['*']
  | .any => ['?']
  | .set stuff => '[' :: (stuff ++ [']'])
  | .lit c => [c]

theorem setLength_closes {text : List Char} {length : Nat} (found : setLength text = some length) :
    text.take length ++ ']' :: text.drop (length + 1) = text := by
  unfold setLength at found
  obtain ⟨passed, closes, behind⟩ := Option.map_eq_some_iff.mp found
  obtain ⟨bound, closing, _⟩ := List.findIdx?_eq_some_iff_getElem.mp closes
  have within : length < text.length := by
    rw [List.length_drop] at bound
    omega
  have last : text[length] = ']' := by
    rw [List.getElem_drop, decide_eq_true_eq] at closing
    simp only [← behind]
    exact closing
  rw [← last, ← List.drop_eq_getElem_cons within, List.take_append_drop]

theorem flatMap_text_tokensFrom (skip : Nat) (pattern : List Char) :
    (tokensFrom skip pattern).flatMap Token.text = pattern.drop skip := by
  fun_induction tokensFrom skip pattern with
  | case1 skip => rw [List.drop_nil, List.flatMap_nil]
  | case2 skip head rest ih => rw [ih, List.drop_succ_cons]
  | case3 rest ih => rw [List.flatMap_cons, ih]; rfl
  | case4 rest _ ih => rw [List.flatMap_cons, ih]; rfl
  | case5 rest length found _ _ ih =>
      rw [List.flatMap_cons, ih, Token.text, List.cons_append, List.append_assoc]
      exact congrArg (List.cons _) (setLength_closes found)
  | case6 rest _ _ _ ih => rw [List.flatMap_cons, ih]; rfl
  | case7 c rest _ _ _ ih => rw [List.flatMap_cons, ih]; rfl

theorem flatMap_text_tokens (pattern : List Char) : (tokens pattern).flatMap Token.text = pattern :=
  flatMap_text_tokensFrom 0 pattern

theorem lit_of_mem_tokensFrom {skip : Nat} {pattern : List Char} {letter : Char}
    (found : .lit letter ∈ tokensFrom skip pattern) : letter ≠ '*' ∧ letter ≠ '?' := by
  fun_induction tokensFrom skip pattern with
  | case1 skip => cases found
  | case2 skip head rest ih => exact ih found
  | case3 rest ih => exact ih (List.mem_of_ne_of_mem Token.noConfusion found)
  | case4 rest _ ih => exact ih (List.mem_of_ne_of_mem Token.noConfusion found)
  | case5 rest length _ _ _ ih => exact ih (List.mem_of_ne_of_mem Token.noConfusion found)
  | case6 rest _ _ _ ih =>
      rcases List.mem_cons.mp found with same | later
      · cases same
        decide
      · exact ih later
  | case7 c rest noStar noAny _ ih =>
      rcases List.mem_cons.mp found with same | later
      · cases same
        exact ⟨noStar, noAny⟩
      · exact ih later

theorem Matches.append {first second : List Token} {left right : List Char} (fit : Matches first left)
    (next : Matches second right) : Matches (first ++ second) (left ++ right) := by
  induction fit with
  | nil => exact next
  | star passed _ ih =>
      rw [List.append_assoc]
      exact .star passed ih
  | any c _ ih => exact .any c ih
  | set found _ ih => exact .set found ih
  | lit c _ ih => exact .lit c ih

theorem Matches.split {first second : List Token} {text : List Char} (fit : Matches (first ++ second) text) :
    ∃ left right, text = left ++ right ∧ Matches first left ∧ Matches second right := by
  induction first generalizing text with
  | nil => exact ⟨[], text, rfl, .nil, fit⟩
  | cons token rest ih =>
      cases fit with
      | star passed fit =>
          obtain ⟨left, right, rfl, before, after⟩ := ih fit
          exact ⟨passed ++ left, right, (List.append_assoc ..).symm, .star passed before, after⟩
      | any c fit =>
          obtain ⟨left, right, rfl, before, after⟩ := ih fit
          exact ⟨c :: left, right, rfl, .any c before, after⟩
      | set found fit =>
          obtain ⟨left, right, rfl, before, after⟩ := ih fit
          exact ⟨_ :: left, right, rfl, .set found before, after⟩
      | lit c fit =>
          obtain ⟨left, right, rfl, before, after⟩ := ih fit
          exact ⟨c :: left, right, rfl, .lit c before, after⟩

theorem matches_lits {letters text : List Char} (fit : Matches (letters.map .lit) text) : text = letters := by
  induction letters generalizing text with
  | nil =>
      cases fit
      rfl
  | cons letter letters ih =>
      cases fit with
      | lit _ fit => rw [ih fit]

theorem infix_of_matches {leading trailing : Nat} {letters text : List Char}
    (fit : Matches (List.replicate leading .star ++ letters.map .lit ++ List.replicate trailing .star) text) :
    letters <:+: text := by
  obtain ⟨upTo, behind, rfl, fit, _⟩ := fit.split
  obtain ⟨before, same, rfl, _, fit⟩ := fit.split
  exact ⟨before, behind, by rw [matches_lits fit]⟩

def Token.filler : Token → List Char
  | .star => []
  | .any => ['0']
  | .set _ => []
  | .lit c => [c]

theorem matches_filler {pattern : List Token} (noSet : ∀ stuff, .set stuff ∉ pattern) :
    Matches pattern (pattern.flatMap Token.filler) := by
  induction pattern with
  | nil => exact .nil
  | cons token rest ih =>
      have fit := ih fun stuff found => noSet stuff (List.mem_cons_of_mem _ found)
      rw [List.flatMap_cons]
      cases token with
      | star => exact .star [] fit
      | any => exact .any '0' fit
      | set stuff => exact absurd List.mem_cons_self (noSet stuff)
      | lit c => exact .lit c fit

theorem exists_matches {pattern : List Token} (filled : ∀ stuff, .set stuff ∈ pattern → ∃ c, member stuff c = true) :
    ∃ text, Matches pattern text := by
  induction pattern with
  | nil => exact ⟨[], .nil⟩
  | cons token rest ih =>
      obtain ⟨text, fit⟩ := ih fun stuff found => filled stuff (List.mem_cons_of_mem _ found)
      cases token with
      | star => exact ⟨_, .star [] fit⟩
      | any => exact ⟨_, .any '0' fit⟩
      | set stuff =>
          obtain ⟨c, found⟩ := filled stuff List.mem_cons_self
          exact ⟨_, .set found fit⟩
      | lit c => exact ⟨_, .lit c fit⟩

theorem member_of_matches {pattern : List Token} {text : List Char} (fit : Matches pattern text)
    {stuff : List Char} (found : .set stuff ∈ pattern) : ∃ c, member stuff c = true := by
  induction fit with
  | nil => cases found
  | star _ _ ih => exact ih (List.mem_of_ne_of_mem Token.noConfusion found)
  | any _ _ ih => exact ih (List.mem_of_ne_of_mem Token.noConfusion found)
  | set inside _ ih =>
      rcases List.mem_cons.mp found with same | later
      · cases same
        exact ⟨_, inside⟩
      · exact ih later
  | lit _ _ ih => exact ih (List.mem_of_ne_of_mem Token.noConfusion found)

theorem stars_around_or_parted {pattern : List Token}
    (simple : ∀ token ∈ pattern, token = .star ∨ ∃ c, token = .lit c) :
    (∃ (leading : Nat) (letters : List Char) (trailing : Nat),
        pattern = List.replicate leading .star ++ letters.map .lit ++ List.replicate trailing .star) ∨
      ∃ before after, pattern = before ++ .star :: after ∧ before.flatMap Token.filler ≠ [] ∧
        after.flatMap Token.filler ≠ [] := by
  induction pattern with
  | nil => exact Or.inl ⟨0, [], 0, rfl⟩
  | cons token rest ih =>
      have parts := ih fun other found => simple other (List.mem_cons_of_mem _ found)
      rcases simple token List.mem_cons_self with rfl | ⟨c, rfl⟩
      · rcases parts with ⟨leading, letters, trailing, rfl⟩ | ⟨before, after, rfl, first, second⟩
        · exact Or.inl ⟨leading + 1, letters, trailing, rfl⟩
        · exact Or.inr ⟨.star :: before, after, rfl, first, second⟩
      · rcases parts with ⟨leading, letters, trailing, rfl⟩ | ⟨before, after, rfl, first, second⟩
        · cases leading with
          | zero => exact Or.inl ⟨0, c :: letters, trailing, rfl⟩
          | succ leading =>
              rcases letters with _ | ⟨letter, letters⟩
              · refine Or.inl ⟨0, [c], leading + 1 + trailing, ?_⟩
                rw [List.map_nil, List.append_nil, List.replicate_append_replicate]
                rfl
              · exact Or.inr ⟨[.lit c], _, rfl, by simp [Token.filler], by simp [Token.filler]⟩
        · exact Or.inr ⟨.lit c :: before, after, rfl, by simp [Token.filler], second⟩

theorem not_infix_spread {first last gap : Char} {front back : List Char} (opens : first ≠ gap) (ends : last ≠ gap) :
    ¬(first :: front) ++ (back ++ [last]) <:+:
      (first :: front) ++ (List.replicate (front.length + back.length + 2) gap ++ (back ++ [last])) := by
  intro found
  obtain ⟨start, bound, same⟩ := List.infix_iff_getElem?.mp found
  simp only [List.length_append, List.length_cons, List.length_nil, List.length_replicate] at bound
  have filled (place : Nat) (low : front.length + 1 ≤ place) (high : place < 2 * front.length + back.length + 3) :
      ((first :: front) ++ (List.replicate (front.length + back.length + 2) gap ++ (back ++ [last])))[place]? =
        some gap := by
    rw [List.getElem?_append_right (by simpa using low), List.length_cons,
      List.getElem?_append_left (by rw [List.length_replicate]; omega),
      List.getElem?_replicate, if_pos (by omega)]
  rcases Nat.lt_or_ge start (front.length + 1) with early | late
  · have tail := same (front.length + back.length + 1) (by simp only [List.length_append, List.length_cons]; omega)
    rw [filled _ (by omega) (by omega)] at tail
    exact ends (by simpa [List.getElem_append] using tail.symm)
  · have head := same 0 (by simp)
    rw [filled _ (by omega) (by omega)] at head
    exact opens (by simpa using head.symm)

end Glob
