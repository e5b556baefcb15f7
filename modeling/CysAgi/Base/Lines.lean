import CysAgi.Base.Splitting

namespace Py

def isLineEnd (c : Char) : Bool := c.toNat ∈ [10, 11, 12, 13, 0x1C, 0x1D, 0x1E, 0x85, 0x2028, 0x2029]

def splitlines : List Char → List (List Char)
  | [] => []
  | '\r' :: '\n' :: rest => [] :: splitlines rest
  | c :: rest =>
    if isLineEnd c then [] :: splitlines rest
    else (c :: (splitlines rest).headD []) :: (splitlines rest).tail

theorem splitlines_newline (rest : List Char) : splitlines ('\n' :: rest) = [] :: splitlines rest := rfl

theorem splitlines_cons {c : Char} (plain : isLineEnd c = false) (rest : List Char) :
    splitlines (c :: rest) = (c :: (splitlines rest).headD []) :: (splitlines rest).tail := by
  have other : c ≠ '\r' := by
    rintro rfl
    cases plain
  have ends : ¬ isLineEnd c = true := by
    rw [plain]
    exact Bool.false_ne_true
  rw [splitlines.eq_3 c rest fun _ same _ => other same, if_neg ends]

theorem splitlines_line {line : List Char} (plain : ∀ c ∈ line, isLineEnd c = false) (rest : List Char) :
    splitlines (line ++ '\n' :: rest) = line :: splitlines rest := by
  induction line with
  | nil => rfl
  | cons c line ih =>
    rw [List.forall_mem_cons] at plain
    rw [List.cons_append, splitlines_cons plain.1, ih plain.2]
    rfl

theorem splitlines_single {line : List Char} (nonempty : line ≠ []) (plain : ∀ c ∈ line, isLineEnd c = false) :
    splitlines line = [line] := by
  induction line with
  | nil => exact absurd rfl nonempty
  | cons c line ih =>
    rw [List.forall_mem_cons] at plain
    rw [splitlines_cons plain.1]
    cases line with
    | nil => rfl
    | cons d line =>
      rw [ih (List.cons_ne_nil d line) plain.2]
      rfl

theorem splitlines_before {last : List Char} (nonempty : last ≠ []) (plain : ∀ c ∈ last, isLineEnd c = false)
    {body : List Char} (ends : ∀ c ∈ body, isLineEnd c = true → c = '\n') :
    ∃ lines, lines ≠ [] ∧ splitlines (body ++ '\n' :: last) = lines ++ [last] ∧ ['\n'].intercalate lines = body := by
  induction body with
  | nil =>
    refine ⟨[[]], List.cons_ne_nil _ _, ?_, rfl⟩
    rw [List.nil_append, splitlines_newline, splitlines_single nonempty plain]
    rfl
  | cons c body ih =>
    rw [List.forall_mem_cons] at ends
    obtain ⟨lines, some_line, split, joined⟩ := ih ends.2
    obtain ⟨line, others, rfl⟩ := List.exists_cons_of_ne_nil some_line
    by_cases lineEnd : isLineEnd c = true
    · rw [ends.1 lineEnd]
      refine ⟨[] :: line :: others, List.cons_ne_nil _ _, ?_, ?_⟩
      · rw [List.cons_append, splitlines_newline, split]
        rfl
      · rw [List.intercalate_cons_of_ne_nil some_line, joined]
        rfl
    · refine ⟨(c :: line) :: others, List.cons_ne_nil _ _, ?_, ?_⟩
      · rw [List.cons_append, splitlines_cons (Bool.eq_false_iff.mpr lineEnd), split]
        rfl
      · rw [← joined]
        cases others with
        | nil => rfl
        | cons other others =>
          rw [List.intercalate_cons_of_ne_nil (List.cons_ne_nil _ _),
            List.intercalate_cons_of_ne_nil (List.cons_ne_nil _ _)]
          rfl

end Py
