import Mathlib.Data.List.Basic

namespace Readable

variable {α β κ : Type} {Rest : List κ → Prop} {text : α → List κ}

def Reads (Rest : List κ → Prop) (text : α → List κ) (a : α) : Prop :=
  ∀ b r s, Rest r → Rest s → text a ++ r = text b ++ s → a = b ∧ r = s

theorem Reads.inj {a b : α} (reads : Reads Rest text a) (nil : Rest []) (same : text a = text b) : a = b := by
  have again : text a ++ [] = text b ++ [] := by rw [same]
  exact (reads b [] [] nil nil again).1

theorem reads_of_decoder {γ : Type} {decode : List κ → Option (γ × List κ)} {held : α → γ}
    (injective : Function.Injective held) (decoded : ∀ a r, decode (text a ++ r) = some (held a, r)) (a : α) :
    Reads Rest text a := by
  intro b r s _ _ same
  have read := decoded a r
  rw [same, decoded b s] at read
  obtain ⟨value, rest⟩ := Prod.mk.inj (Option.some.inj read)
  exact ⟨injective value.symm, rest.symm⟩

theorem Reads.pair {text' : β → List κ} {a : α} {b : β} (first : Reads (fun _ => True) text a)
    (second : Reads Rest text' b) : Reads Rest (fun p : α × β => text p.1 ++ text' p.2) (a, b) := by
  intro p r s restR restS same
  simp only [List.append_assoc] at same
  obtain ⟨rfl, rest⟩ := first p.1 _ _ trivial trivial same
  obtain ⟨rfl, rfl⟩ := second p.2 r s restR restS rest
  exact ⟨rfl, rfl⟩

theorem span_unique {p : κ → Bool} {t u r s : List κ} (allT : ∀ c ∈ t, p c = true) (allU : ∀ c ∈ u, p c = true)
    (endR : ∀ c ∈ r.head?, p c = false) (endS : ∀ c ∈ s.head?, p c = false) (same : t ++ r = u ++ s) :
    t = u ∧ r = s := by
  induction t generalizing u with
  | nil =>
    cases u with
    | nil => exact ⟨rfl, same⟩
    | cons c u =>
      rw [List.nil_append, List.cons_append] at same
      have outside := endR c (by rw [same]; rfl)
      rw [allU c List.mem_cons_self] at outside
      cases outside
  | cons c t ih =>
    cases u with
    | nil =>
      rw [List.nil_append, List.cons_append] at same
      have outside := endS c (by rw [← same]; rfl)
      rw [allT c List.mem_cons_self] at outside
      cases outside
    | cons d u =>
      rw [List.cons_append, List.cons_append, List.cons.injEq] at same
      obtain ⟨rfl, same⟩ := same
      obtain ⟨rfl, rest⟩ := ih (fun d member => allT d (List.mem_cons_of_mem _ member))
        (fun d member => allU d (List.mem_cons_of_mem _ member)) same
      exact ⟨rfl, rest⟩

def closed (separator close : κ) (text : α → List κ) : List α → List κ
  | [] => [close]
  | a :: as => separator :: (text a ++ closed separator close text as)

theorem reads_closed {separator close : κ} (apart : separator ≠ close) (separated : ∀ r, Rest (separator :: r))
    (ended : ∀ r, Rest (close :: r)) {as : List α} (each : ∀ a ∈ as, Reads Rest text a) :
    Reads (fun _ => True) (closed separator close text) as := by
  have rest : ∀ (bs : List α) r, Rest (closed separator close text bs ++ r) := by
    intro bs r
    cases bs with
    | nil => exact ended r
    | cons b bs => exact separated _
  induction as with
  | nil =>
    intro bs r s _ _ same
    cases bs with
    | nil => exact ⟨rfl, (List.cons.inj same).2⟩
    | cons b bs => exact absurd (List.cons.inj same).1.symm apart
  | cons a as ih =>
    intro bs r s _ _ same
    cases bs with
    | nil => exact absurd (List.cons.inj same).1 apart
    | cons b bs =>
      simp only [closed, List.cons_append, List.cons.injEq, true_and, List.append_assoc] at same
      obtain ⟨rfl, others⟩ := each a List.mem_cons_self b _ _ (rest as r) (rest bs s) same
      obtain ⟨rfl, rfl⟩ := ih (fun c member => each c (List.mem_cons_of_mem _ member)) bs r s trivial trivial others
      exact ⟨rfl, rfl⟩

end Readable
