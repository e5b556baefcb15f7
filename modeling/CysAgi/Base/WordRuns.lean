import Mathlib.Data.List.Basic
import Mathlib.Data.List.Chain
import Mathlib.Data.List.Infix

namespace Py

/-- `\w`, which is letters, digits and the underscore, where a text is plain. -/
structure WordClass where
  isWord : Char → Bool
  ascii {c : Char} : c.toNat < 128 → isWord c = (c.isAlphanum || c == '_')

def plainWords : WordClass where
  isWord c := c.isAlphanum || c == '_'
  ascii _ := rfl

section

variable {α : Type} (p : α → Bool) (new : List α)

/-- `re.sub(r"[class]+", new, text)`. -/
def subRuns : List α → List α
  | [] => []
  | c :: rest =>
    if p c then
      if rest.head?.any p then subRuns rest else new ++ subRuns rest
    else c :: subRuns rest

variable {p new}

theorem subRuns_cons_neg {c : α} (kept : p c = false) (rest : List α) :
    subRuns p new (c :: rest) = c :: subRuns p new rest := by
  rw [subRuns, if_neg (by simp [kept])]

theorem mem_subRuns {text : List α} {c : α} (member : c ∈ subRuns p new text) : c ∈ text ∧ p c = false ∨ c ∈ new := by
  induction text with
  | nil => cases member
  | cons first rest ih =>
    have later (inside : c ∈ subRuns p new rest) : c ∈ first :: rest ∧ p c = false ∨ c ∈ new :=
      (ih inside).imp_left fun found => ⟨List.mem_cons_of_mem first found.1, found.2⟩
    rw [subRuns] at member
    split at member
    · split at member
      · exact later member
      · rcases List.mem_append.mp member with fresh | inside
        · exact .inr fresh
        · exact later inside
    · rename_i kept
      rcases List.mem_cons.mp member with rfl | inside
      · exact .inl ⟨List.mem_cons_self, Bool.eq_false_iff.mpr kept⟩
      · exact later inside

theorem mem_subRuns_iff {text : List α} {c : α} (kept : p c = false) (fresh : c ∉ new) :
    c ∈ subRuns p new text ↔ c ∈ text := by
  constructor
  · intro member
    rcases mem_subRuns member with found | found
    · exact found.1
    · exact absurd found fresh
  · intro member
    induction text with
    | nil => cases member
    | cons first rest ih =>
      rw [subRuns]
      rcases List.mem_cons.mp member with rfl | inside
      · rw [if_neg (by simp [kept])]
        exact List.mem_cons_self
      · split
        · split
          · exact ih inside
          · exact List.mem_append_right new (ih inside)
        · exact List.mem_cons_of_mem first (ih inside)

theorem isChain_subRuns (new : α) (text : List α) :
    (subRuns p [new] text).IsChain fun a b => ¬ (p a = true ∧ p b = true) := by
  have head {rest : List α} (other : rest.head?.any p = false) :
      ∀ d ∈ (subRuns p [new] rest).head?, p d = false := by
    cases rest with
    | nil => simp [subRuns]
    | cons d rest =>
      have kept : p d = false := other
      rw [subRuns_cons_neg kept]
      simp [kept]
  induction text with
  | nil => exact .nil
  | cons c rest ih =>
    rw [subRuns]
    split
    · split
      · exact ih
      · rename_i other
        refine List.isChain_cons.mpr ⟨fun d starts both => ?_, ih⟩
        rw [head (Bool.eq_false_iff.mpr other) d starts] at both
        cases both.2
    · rename_i kept
      exact List.isChain_cons.mpr ⟨fun d _ both => kept both.1, ih⟩

theorem head?_subRuns {new c : α} (hit : p c = true) (rest : List α) :
    (subRuns p [new] (c :: rest)).head? = some new := by
  induction rest generalizing c with
  | nil =>
    rw [subRuns, if_pos hit]
    rfl
  | cons d rest ih =>
    rw [subRuns, if_pos hit]
    split
    · rename_i more
      exact ih more
    · rfl

theorem prefix_of_subRuns {new : α} {start text : List α} (fresh : new ∉ start)
    (starts : start <+: subRuns p [new] text) : start <+: text := by
  induction text generalizing start with
  | nil => exact starts
  | cons c rest ih =>
    cases start with
    | nil => exact List.nil_prefix
    | cons d start =>
      by_cases hit : p c = true
      · have first : (subRuns p [new] (c :: rest)).head? = some new := head?_subRuns hit rest
        obtain ⟨after, spelled⟩ := starts
        rw [← spelled, List.cons_append, List.head?_cons] at first
        rw [Option.some.inj first] at fresh
        exact absurd List.mem_cons_self fresh
      · rw [subRuns_cons_neg (Bool.eq_false_iff.mpr hit), List.cons_prefix_cons] at starts
        rw [List.cons_prefix_cons]
        exact ⟨starts.1, ih (fun later => fresh (List.mem_cons_of_mem d later)) starts.2⟩

theorem subRuns_cons (p : α → Bool) (new c : α) (rest : List α) :
    subRuns p [new] (c :: rest) = subRuns p [new] rest ∨
      ∃ d, subRuns p [new] (c :: rest) = d :: subRuns p [new] rest := by
  rw [subRuns]
  split
  · split
    · exact .inl rfl
    · exact .inr ⟨new, rfl⟩
  · exact .inr ⟨c, rfl⟩

theorem infix_of_subRuns {new : α} {part text : List α} (fresh : new ∉ part)
    (inside : part <:+: subRuns p [new] text) : part <:+: text := by
  induction text with
  | nil => exact inside
  | cons c rest ih =>
    rcases subRuns_cons p new c rest with same | ⟨d, same⟩
    · rw [same] at inside
      exact List.infix_cons (ih inside)
    · rw [same, List.infix_cons_iff, ← same] at inside
      rcases inside with starts | later
      · exact (prefix_of_subRuns fresh starts).isInfix
      · exact List.infix_cons (ih later)

theorem subRuns_of_isChain {new : α} {text : List α} (only : ∀ c ∈ text, p c = true → c = new)
    (apart : text.IsChain fun a b => ¬ (p a = true ∧ p b = true)) : subRuns p [new] text = text := by
  induction text with
  | nil => rfl
  | cons c rest ih =>
    rw [List.isChain_cons] at apart
    have left := ih (fun d later => only d (List.mem_cons_of_mem c later)) apart.2
    by_cases hit : p c = true
    · have alone : ¬ rest.head?.any p = true := by
        rw [Option.any_eq_true]
        rintro ⟨d, starts, more⟩
        exact apart.1 d starts ⟨hit, more⟩
      rw [subRuns, if_pos hit, if_neg alone, left, only c List.mem_cons_self hit]
      rfl
    · rw [subRuns_cons_neg (Bool.eq_false_iff.mpr hit), left]

theorem subRuns_of_none {text : List α} (none : ∀ c ∈ text, p c = false) : subRuns p new text = text := by
  induction text with
  | nil => rfl
  | cons c rest ih =>
    rw [subRuns_cons_neg (none c List.mem_cons_self), ih fun d inside => none d (List.mem_cons_of_mem c inside)]

theorem new_mem_subRuns {text : List α} {c : α} (member : c ∈ text) (hit : p c = true) : new ⊆ subRuns p new text := by
  induction text generalizing c with
  | nil => cases member
  | cons first rest ih =>
    rw [subRuns]
    split
    · split
      · rename_i more
        cases rest with
        | nil => cases more
        | cons second others => exact ih List.mem_cons_self more
      · exact List.subset_append_left new _
    · rename_i kept
      rcases List.mem_cons.mp member with rfl | inside
      · exact absurd hit kept
      · exact List.subset_cons_of_subset first (ih inside hit)

end

section

variable {α : Type} (p : α → Bool) (f : List α → List α)

def ofRun (run : List α) : List (List α) := if run.isEmpty then [] else [run]

def findRunsFrom : List α → List α → List (List α)
  | run, [] => ofRun run
  | run, c :: rest => if p c then findRunsFrom (run ++ [c]) rest else ofRun run ++ findRunsFrom [] rest

/-- `re.findall(r"[class]+", text)`. -/
def findRuns (text : List α) : List (List α) := findRunsFrom p [] text

def mapRunsFrom : List α → List α → List α
  | run, [] => f run
  | run, c :: rest => if p c then mapRunsFrom (run ++ [c]) rest else f run ++ c :: mapRunsFrom [] rest

/-- The text with `f` of every maximal run of the class in its place. -/
def mapRuns (text : List α) : List α := mapRunsFrom p f [] text

variable {p f}

theorem mapRunsFrom_run {run : List α} (inside : ∀ c ∈ run, p c = true) (before rest : List α) :
    mapRunsFrom p f before (run ++ rest) = mapRunsFrom p f (before ++ run) rest := by
  induction run generalizing before with
  | nil => simp
  | cons c run ih =>
    rw [List.cons_append, mapRunsFrom, if_pos (inside c List.mem_cons_self),
      ih fun d member => inside d (List.mem_cons_of_mem c member), List.append_assoc]
    rfl

theorem mapRuns_cons_append {c : α} (other : p c = false) (before after : List α) :
    mapRuns p f (before ++ c :: after) = mapRuns p f before ++ c :: mapRuns p f after := by
  have split (run : List α) : mapRunsFrom p f run (before ++ c :: after) =
      mapRunsFrom p f run before ++ c :: mapRunsFrom p f [] after := by
    induction before generalizing run with
    | nil =>
      simp [mapRunsFrom, other]
    | cons d before ih =>
      rw [List.cons_append, mapRunsFrom, mapRunsFrom]
      split
      · exact ih _
      · rw [ih, List.append_assoc, List.cons_append]
  exact split []

theorem mapRuns_run {run : List α} (inside : ∀ c ∈ run, p c = true) : mapRuns p f run = f run := by
  have whole := mapRunsFrom_run (f := f) inside [] []
  rw [List.append_nil, List.nil_append] at whole
  exact whole

theorem mapRuns_of_fixed {text : List α}
    (fixed : ∀ run, run <:+: text → (∀ c ∈ run, p c = true) → f run = run) : mapRuns p f text = text := by
  have left {run rest : List α} (word : ∀ c ∈ run, p c = true) (inside : run ++ rest <:+: text) :
      mapRunsFrom p f run rest = run ++ rest := by
    induction rest generalizing run with
    | nil =>
      rw [List.append_nil] at inside ⊢
      exact fixed run inside word
    | cons c rest ih =>
      rw [mapRunsFrom]
      split
      · rename_i hit
        have longer : ∀ d ∈ run ++ [c], p d = true := by
          simpa [or_imp, forall_and, hit] using word
        rw [ih longer (by simpa using inside), List.append_assoc]
        rfl
      · rw [fixed run ((List.prefix_append run _).isInfix.trans inside) word,
          ih (List.forall_mem_nil _) ((List.suffix_append (run ++ [c]) rest).isInfix.trans (by simpa using inside))]
        rfl
  exact left (List.forall_mem_nil _) List.infix_rfl

theorem forall_mem_mapRuns {q : α → Prop} (keeps : ∀ run, (∀ c ∈ run, q c) → ∀ c ∈ f run, q c) {text : List α}
    (all : ∀ c ∈ text, q c) : ∀ c ∈ mapRuns p f text, q c := by
  have kept {run : List α} (before : ∀ c ∈ run, q c) : ∀ c ∈ mapRunsFrom p f run text, q c := by
    induction text generalizing run with
    | nil => exact keeps run before
    | cons d rest ih =>
      rw [List.forall_mem_cons] at all
      rw [mapRunsFrom]
      split
      · apply ih all.2
        simpa [or_imp, forall_and, all.1] using before
      · rw [List.forall_mem_append, List.forall_mem_cons]
        exact ⟨keeps run before, all.1, ih all.2 (List.forall_mem_nil _)⟩
  exact kept (List.forall_mem_nil _)

end

end Py
