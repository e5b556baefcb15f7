import CysAgi.Base.Text

namespace Py

section

variable {α : Type} [DecidableEq α]

def splitFrom (separator : List α) : Nat → List α → List α → List (List α)
  | _, part, [] => [part]
  | skip + 1, part, _ :: rest => splitFrom separator skip part rest
  | 0, part, c :: rest =>
    if separator.isPrefixOf (c :: rest) then part :: splitFrom separator (separator.length - 1) [] rest
    else splitFrom separator 0 (part ++ [c]) rest

theorem splitFrom_ne_nil (separator : List α) (skip : Nat) (part text : List α) :
    splitFrom separator skip part text ≠ [] := by
  induction text generalizing skip part with
  | nil => simp [splitFrom]
  | cons c rest ih =>
    cases skip with
    | succ skip => exact ih skip part
    | zero =>
      unfold splitFrom
      split
      · exact List.cons_ne_nil part _
      · exact ih 0 (part ++ [c])

theorem splitFrom_absent {separator : α} {text : List α} (absent : separator ∉ text) (part : List α) :
    splitFrom [separator] 0 part text = [part ++ text] := by
  induction text generalizing part with
  | nil => simp [splitFrom]
  | cons c rest ih =>
    rw [List.mem_cons, not_or] at absent
    rw [splitFrom, if_neg (by simp [absent.1]), ih absent.2]
    simp

theorem intercalate_splitFrom {separator : List α} (nonempty : separator ≠ []) (skip : Nat) (part text : List α) :
    separator.intercalate (splitFrom separator skip part text) = part ++ text.drop skip := by
  induction text generalizing skip part with
  | nil => simp [splitFrom]
  | cons c rest ih =>
    cases skip with
    | succ skip => exact ih skip part
    | zero =>
      unfold splitFrom
      split
      · rename_i occurs
        obtain ⟨after, spelled⟩ := List.isPrefixOf_iff_prefix.mp occurs
        obtain ⟨first, others, rfl⟩ := List.exists_cons_of_ne_nil nonempty
        obtain ⟨rfl, rest_eq⟩ := List.cons.inj spelled
        rw [List.intercalate_cons_of_ne_nil (splitFrom_ne_nil _ _ [] rest), ih, ← rest_eq]
        simp
      · rw [ih]
        simp

end

/-- `text.split(separator)` for a separator that is not empty. -/
def splitOn (separator text : String) : List String :=
  (splitFrom separator.toList 0 [] text.toList).map String.ofList

/-- `text.replace(old, new)` for an old text that is not empty. -/
def replaceAll (old new text : String) : String := new.intercalate (splitOn old text)

theorem toList_replaceAll_absent {c : Char} {old new text : String} (one : old.toList = [c]) (absent : c ∉ text.toList) :
    (replaceAll old new text).toList = text.toList := by
  unfold replaceAll splitOn
  rw [one, splitFrom_absent absent]
  simp

theorem intercalate_splitOn {separator : String} (nonempty : separator.toList ≠ []) (text : String) :
    separator.intercalate (splitOn separator text) = text := by
  have parts : (splitOn separator text).map String.toList = splitFrom separator.toList 0 [] text.toList := by
    simp [splitOn, Function.comp_def]
  rw [← String.toList_inj, String.toList_intercalate, parts, intercalate_splitFrom nonempty]
  rfl

def visible (text : List Char) : List Char := text.filter fun c => !isSpace c

theorem visible_append (left right : List Char) : visible (left ++ right) = visible left ++ visible right :=
  List.filter_append left right

theorem visible_dropWhile (text : List Char) : visible (text.dropWhile isSpace) = visible text := by
  induction text with
  | nil => rfl
  | cons c rest ih =>
    by_cases space : isSpace c = true
    · rw [List.dropWhile_cons_of_pos space, ih]
      simp [visible, space]
    · rw [List.dropWhile_cons_of_neg space]

theorem visible_reverse (text : List Char) : visible text.reverse = (visible text).reverse :=
  List.filter_reverse

theorem visible_strip (text : String) : visible (strip text).toList = visible text.toList := by
  unfold strip List.rdropWhile
  rw [String.toList_ofList, visible_reverse, visible_dropWhile, visible_reverse, List.reverse_reverse,
    visible_dropWhile]

theorem dropWhile_of_head {p : α → Bool} {items : List α} (kept : items.head?.map p = some false) :
    items.dropWhile p = items := by
  cases items with
  | nil => rfl
  | cons item rest =>
    have refused : p item = false := Option.some.inj kept
    rw [List.dropWhile_cons_of_neg (Bool.eq_false_iff.mp refused)]

theorem head_dropWhile {p : α → Bool} {items : List α} (left : items.dropWhile p ≠ []) :
    (items.dropWhile p).head?.map p = some false := by
  induction items with
  | nil => exact absurd rfl left
  | cons item rest ih =>
    by_cases dropped : p item = true
    · rw [List.dropWhile_cons_of_pos dropped] at left ⊢
      exact ih left
    · rw [List.dropWhile_cons_of_neg dropped]
      exact congrArg some (Bool.eq_false_iff.mpr dropped)

structure Trimmed (text : String) : Prop where
  first : text.toList.head?.map isSpace = some false
  last : text.toList.getLast?.map isSpace = some false

theorem Trimmed.ne_empty {text : String} (trimmed : Trimmed text) : text ≠ "" := by
  rintro rfl
  cases trimmed.first

theorem strip_of_trimmed {text : String} (trimmed : Trimmed text) : strip text = text := by
  have last := trimmed.last
  rw [← List.head?_reverse] at last
  unfold strip List.rdropWhile
  rw [dropWhile_of_head trimmed.first, dropWhile_of_head last, List.reverse_reverse, String.ofList_toList]

theorem head_of_prefix {start items : List α} (nonempty : start ≠ []) (begins : start <+: items) :
    start.head? = items.head? := by
  obtain ⟨rest, rfl⟩ := begins
  cases start with
  | nil => exact absurd rfl nonempty
  | cons => rfl

theorem trimmed_strip {text : String} (present : strip text ≠ "") : Trimmed (strip text) := by
  have left : (text.toList.dropWhile isSpace).rdropWhile isSpace ≠ [] := by
    intro none
    apply present
    unfold strip
    rw [none]
  constructor
  · have started : text.toList.dropWhile isSpace ≠ [] := by
      intro none
      rw [none] at left
      exact left rfl
    unfold strip
    rw [String.toList_ofList, head_of_prefix left (List.rdropWhile_prefix isSpace _)]
    exact head_dropWhile started
  · have ended : (text.toList.dropWhile isSpace).reverse.dropWhile isSpace ≠ [] := by
      intro none
      apply left
      unfold List.rdropWhile
      rw [none]
      rfl
    unfold strip List.rdropWhile
    rw [String.toList_ofList, List.getLast?_reverse]
    exact head_dropWhile ended

theorem strip_strip (text : String) : strip (strip text) = strip text := by
  by_cases present : strip text = ""
  · rw [present]
    rfl
  · exact strip_of_trimmed (trimmed_strip present)

theorem mem_strip_iff {text : String} {c : Char} (visible : isSpace c = false) :
    c ∈ (strip text).toList ↔ c ∈ text.toList := by
  have same := visible_strip text
  have filtered (other : String) : c ∈ Py.visible other.toList ↔ c ∈ other.toList := by
    simp [Py.visible, List.mem_filter, visible]
  rw [← filtered, same, filtered]

theorem strip_inside (text : String) : (strip text).toList <:+: text.toList := by
  unfold strip
  rw [String.toList_ofList]
  exact (List.rdropWhile_prefix _ _).isInfix.trans (List.dropWhile_suffix _).isInfix

theorem empty_or_trimmed (text : String) : strip text = "" ∨ Trimmed (strip text) := by
  by_cases empty : strip text = ""
  · exact .inl empty
  · exact .inr (trimmed_strip empty)

theorem strip_ends (text : String) :
    (strip text).toList.head? ≠ some ' ' ∧ (strip text).toList.getLast? ≠ some ' ' := by
  rcases empty_or_trimmed text with empty | ⟨first, last⟩
  · rw [empty]
    simp
  · constructor
    · intro blank
      rw [blank] at first
      cases first
    · intro blank
      rw [blank] at last
      cases last

theorem Trimmed.append {left right : String} (trimmed : Trimmed left) (other : Trimmed right) (middle : String) :
    Trimmed (left ++ middle ++ right) := by
  obtain ⟨first, starts, noSpace⟩ := Option.map_eq_some_iff.mp trimmed.first
  obtain ⟨last, ends, noSpaceLast⟩ := Option.map_eq_some_iff.mp other.last
  constructor
  · rw [String.toList_append, String.toList_append, List.append_assoc, List.head?_append, starts]
    exact congrArg some noSpace
  · rw [String.toList_append, List.getLast?_append, ends]
    exact congrArg some noSpaceLast

theorem strip_surrounded {before after : List Char} {text body : String}
    (whole : text.toList = before ++ body.toList ++ after) (blank : ∀ c ∈ before ++ after, isSpace c = true) (trimmed : Trimmed body) : strip text = body := by
  have kept : body.toList.rdropWhile isSpace = body.toList := by
    have last := trimmed.last
    rw [← List.head?_reverse] at last
    rw [List.rdropWhile, dropWhile_of_head last, List.reverse_reverse]
  have opened : (body.toList ++ after).head?.map isSpace = some false := by
    have first := trimmed.first
    rw [List.head?_append]
    cases held : body.toList.head? with
    | none =>
      rw [held] at first
      cases first
    | some c =>
      rw [held] at first
      exact first
  have front : (before ++ (body.toList ++ after)).dropWhile isSpace = body.toList ++ after := by
    rw [List.dropWhile_append_of_pos fun c member => blank c (List.mem_append_left _ member), dropWhile_of_head opened]
  have back : (body.toList ++ after).rdropWhile isSpace = body.toList := by
    have spaces : ∀ c ∈ after.reverse, isSpace c = true :=
      fun c member => blank c (List.mem_append_right _ (List.mem_reverse.mp member))
    rw [List.rdropWhile, List.reverse_append, List.dropWhile_append_of_pos spaces]
    exact kept
  rw [strip, whole, List.append_assoc, front, back, String.ofList_toList]

theorem strip_parts (text : String) : ∃ before after : List Char,
    text.toList = before ++ (strip text).toList ++ after ∧ ∀ c ∈ before ++ after, isSpace c = true := by
  refine ⟨text.toList.takeWhile isSpace, ((text.toList.dropWhile isSpace).reverse.takeWhile isSpace).reverse, ?_, ?_⟩
  · rw [strip, String.toList_ofList, List.rdropWhile, List.append_assoc, ← List.reverse_append,
      List.takeWhile_append_dropWhile, List.reverse_reverse, List.takeWhile_append_dropWhile]
  · intro c member
    rcases List.mem_append.mp member with member | member
    · exact List.mem_takeWhile_imp member
    · exact List.mem_takeWhile_imp (List.mem_reverse.mp member)

end Py
