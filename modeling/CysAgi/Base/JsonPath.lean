import CysAgi.Base.Json

namespace Py

inductive PathStep where
  | key (key : String)
  | index (index : Nat)
  deriving DecidableEq

theorem rel_bind {R : α → β → Prop} {S : γ → δ → Prop} {a : Option α} {b : Option β} {f : α → Option γ}
    {g : β → Option δ} (first : Option.Rel R a b) (rest : ∀ x y, R x y → Option.Rel S (f x) (g y)) :
    Option.Rel S (a.bind f) (b.bind g) := by
  cases first with
  | none => exact .none
  | some related => exact rest _ _ related

theorem bind_eq_of_rel {R : α → β → Prop} {a : Option α} {b : Option β} {f : α → Option γ} {g : β → Option γ}
    (first : Option.Rel R a b) (rest : ∀ x y, R x y → g y = f x) : b.bind g = a.bind f := by
  cases first with
  | none => rfl
  | some related => exact rest _ _ related

theorem rel_imp {R S : α → β → Prop} {a : Option α} {b : Option β} (related : Option.Rel R a b)
    (imp : ∀ x y, R x y → S x y) : Option.Rel S a b := by
  cases related with
  | none => exact .none
  | some related => exact .some (imp _ _ related)

theorem rel_some_left {R : α → β → Prop} {a : α} {b : Option β} (related : Option.Rel R (some a) b) :
    ∃ y, b = some y ∧ R a y := by
  cases related with
  | some related => exact ⟨_, rfl, related⟩

theorem rel_some_right {R : α → β → Prop} {a : Option α} {b : β} (related : Option.Rel R a (some b)) :
    ∃ x, a = some x ∧ R x b := by
  cases related with
  | some related => exact ⟨_, rfl, related⟩

namespace Json

def find : List PathStep → Json → Option Json
  | [], value => some value
  | .key key :: path, .obj fields => (JsonDict.get? fields key).bind (find path)
  | .index index :: path, .arr items => items[index]?.bind (find path)
  | _ :: _, _ => none

theorem find_append (path rest : List PathStep) (value : Json) :
    find (path ++ rest) value = (find path value).bind (find rest) := by
  induction path generalizing value with
  | nil => rfl
  | cons step path ih =>
    cases step with
    | key key =>
      cases value with
      | obj fields =>
        simp only [List.cons_append, find]
        cases JsonDict.get? fields key with
        | none => rfl
        | some inner => exact ih inner
      | _ => rfl
    | index index =>
      cases value with
      | arr items =>
        simp only [List.cons_append, find]
        cases items[index]? with
        | none => rfl
        | some inner => exact ih inner
      | _ => rfl

theorem find_cons (step : PathStep) (path : List PathStep) (value : Json) :
    find (step :: path) value = (find [step] value).bind (find path) := find_append [step] path value

def Atom : Json → Prop
  | .null | .bool _ | .int _ | .float _ => True
  | .str _ | .arr _ | .obj _ => False

theorem find_atom_ne {value : Json} (atom : value.Atom) (path : List PathStep) (text : String) :
    find path value ≠ some (.str text) := by
  intro found
  cases value with
  | str _ => exact atom
  | arr _ => exact atom
  | obj _ => exact atom
  | _ =>
    cases path with
    | nil => cases found
    | cons step rest => cases step <;> cases found

theorem path_cases (path : List PathStep) : ∃ keys : List String,
    path = keys.map .key ∨ ∃ index rest, path = keys.map .key ++ .index index :: rest := by
  induction path with
  | nil => exact ⟨[], .inl rfl⟩
  | cons step path ih =>
    cases step with
    | index index => exact ⟨[], .inr ⟨index, path, rfl⟩⟩
    | key key =>
      obtain ⟨keys, through | ⟨index, rest, into⟩⟩ := ih
      · exact ⟨key :: keys, .inl (by rw [through, List.map_cons])⟩
      · exact ⟨key :: keys, .inr ⟨index, rest, by rw [into, List.map_cons, List.cons_append]⟩⟩

end Json

end Py
