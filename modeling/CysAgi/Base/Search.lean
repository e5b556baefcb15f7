import Mathlib.Data.List.Infix

namespace Search

variable {α : Type}

/-- An item of a pattern: a letter, `[among]?` or `\w*`. -/
inductive Item (α : Type) where
  | letter (a : α)
  | maybe (among : List α)
  | run

def afterRun (word : α → Bool) : List α → List (List α)
  | [] => [[]]
  | a :: rest => (a :: rest) :: if word a then afterRun word rest else []

def spellings : List (Item α) → List (List α)
  | [] => [[]]
  | .letter a :: items => (spellings items).map fun word => a :: word
  | .maybe among :: items => spellings items ++ among.flatMap fun a => (spellings items).map fun word => a :: word
  | .run :: items => spellings items

def runLast : List (Item α) → Bool
  | [] => true
  | .run :: items => items.isEmpty
  | _ :: items => runLast items

variable [DecidableEq α] (word : α → Bool)

def matchesAt : List (Item α) → List α → Bool
  | [], _ => true
  | .letter _ :: _, [] => false
  | .letter a :: items, b :: rest => a = b && matchesAt items rest
  | .maybe _ :: items, [] => matchesAt items []
  | .maybe among :: items, b :: rest => (b ∈ among && matchesAt items rest) || matchesAt items (b :: rest)
  | .run :: items, text => (afterRun word text).any fun rest => matchesAt items rest

def search (items : List (Item α)) (text : List α) : Bool := text.tails.any fun rest => matchesAt word items rest

theorem matchesAt_iff {items : List (Item α)} (last : runLast items = true) (text : List α) :
    matchesAt word items text = true ↔ ∃ spelled ∈ spellings items, spelled <+: text := by
  induction items generalizing text with
  | nil => simp [matchesAt, spellings]
  | cons item items ih =>
    cases item with
    | letter a =>
      have later := ih last
      cases text with
      | nil => simp [matchesAt, spellings]
      | cons b rest =>
        simp only [matchesAt, Bool.and_eq_true, decide_eq_true_eq, later, spellings, List.mem_map,
          exists_exists_and_eq_and, List.cons_prefix_cons]
        tauto
    | maybe among =>
      have later := ih last
      have split : (∃ spelled ∈ spellings (.maybe among :: items), spelled <+: text) ↔
          (∃ spelled ∈ spellings items, spelled <+: text) ∨
            ∃ a ∈ among, ∃ spelled ∈ spellings items, a :: spelled <+: text := by
        simp only [spellings, List.mem_append, List.mem_flatMap, List.mem_map]
        constructor
        · rintro ⟨_, plain | ⟨a, inside, spelled, known, rfl⟩, starts⟩
          · exact .inl ⟨_, plain, starts⟩
          · exact .inr ⟨a, inside, spelled, known, starts⟩
        · rintro (⟨spelled, plain, starts⟩ | ⟨a, inside, spelled, known, starts⟩)
          · exact ⟨spelled, .inl plain, starts⟩
          · exact ⟨a :: spelled, .inr ⟨a, inside, spelled, known, rfl⟩, starts⟩
      rw [split]
      cases text with
      | nil =>
        rw [matchesAt, later]
        simp
      | cons b rest =>
        simp only [matchesAt, Bool.or_eq_true, Bool.and_eq_true, decide_eq_true_eq, later, List.cons_prefix_cons]
        constructor
        · rintro (⟨inside, spelled, known, starts⟩ | plain)
          · exact .inr ⟨b, inside, spelled, known, rfl, starts⟩
          · exact .inl plain
        · rintro (plain | ⟨a, inside, spelled, known, rfl, starts⟩)
          · exact .inr plain
          · exact .inl ⟨inside, spelled, known, starts⟩
    | run =>
      cases List.isEmpty_iff.mp last
      cases text <;> simp [matchesAt, spellings, afterRun]

theorem search_iff {items : List (Item α)} (last : runLast items = true) (text : List α) :
    search word items text = true ↔ ∃ spelled ∈ spellings items, spelled <:+: text := by
  simp only [search, List.any_eq_true, List.mem_tails, matchesAt_iff word last, List.infix_iff_prefix_suffix]
  constructor
  · rintro ⟨rest, suffix, spelled, known, starts⟩
    exact ⟨spelled, known, rest, starts, suffix⟩
  · rintro ⟨spelled, known, rest, starts, suffix⟩
    exact ⟨rest, suffix, spelled, known, starts⟩

end Search
