import Mathlib.Data.List.Basic

namespace Py

variable {ε σ α β : Type}

def final (m : EStateM ε σ α) (s : σ) : σ :=
  match m s with
  | .ok _ t => t
  | .error _ t => t

def outcome (m : EStateM ε σ α) (s : σ) : Except ε α :=
  match m s with
  | .ok a _ => .ok a
  | .error e _ => .error e

def resultOf (r : Except ε α) : EStateM ε σ α :=
  match r with
  | .ok a => pure a
  | .error e => throw e

theorem run_cases (m : EStateM ε σ α) (s : σ) :
    (∃ a, m s = .ok a (final m s) ∧ outcome m s = .ok a) ∨
      (∃ e, m s = .error e (final m s) ∧ outcome m s = .error e) := by
  unfold final outcome
  cases m s with
  | ok a t => exact .inl ⟨a, rfl, rfl⟩
  | error e t => exact .inr ⟨e, rfl, rfl⟩

theorem run_of_outcome_ok {m : EStateM ε σ α} {s : σ} {a : α} (done : outcome m s = .ok a) :
    m s = .ok a (final m s) := by
  rcases run_cases m s with ⟨b, ran, same⟩ | ⟨e, -, failed⟩
  · rw [same] at done
    cases done
    exact ran
  · rw [failed] at done
    cases done

theorem run_of_outcome_error {m : EStateM ε σ α} {s : σ} {e : ε} (failed : outcome m s = .error e) :
    m s = .error e (final m s) := by
  rcases run_cases m s with ⟨a, -, done⟩ | ⟨other, ran, same⟩
  · rw [done] at failed
    cases failed
  · rw [same] at failed
    cases failed
    exact ran

@[simp] theorem run_pure (a : α) (s : σ) : (pure a : EStateM ε σ α) s = .ok a s := rfl

@[simp] theorem run_throw (e : ε) (s : σ) : (throw e : EStateM ε σ α) s = .error e s := rfl

@[simp] theorem run_get (s : σ) : (get : EStateM ε σ σ) s = .ok s s := rfl

@[simp] theorem run_modify (f : σ → σ) (s : σ) :
    (modify f : EStateM ε σ PUnit) s = .ok .unit (f s) := rfl

theorem run_bind (m : EStateM ε σ α) (f : α → EStateM ε σ β) (s : σ) :
    (m >>= f) s = match m s with
      | .ok a t => f a t
      | .error e t => .error e t := rfl

theorem run_bind_ok {m : EStateM ε σ α} {f : α → EStateM ε σ β} {s u : σ} {b : β} :
    (m >>= f) s = .ok b u ↔ ∃ a t, m s = .ok a t ∧ f a t = .ok b u := by
  rw [run_bind]
  cases m s <;> simp

theorem run_tryCatch (m : EStateM ε σ α) (h : ε → EStateM ε σ α) (s : σ) :
    (tryCatch m h : EStateM ε σ α) s = match m s with
      | .ok a t => .ok a t
      | .error e t => h e t := by
  change EStateM.tryCatch m h s = _
  unfold EStateM.tryCatch
  cases m s <;> rfl

/-- `try: m finally: f`. An exception of the last block replaces the outcome. -/
def ensuring (m : EStateM ε σ α) (f : EStateM ε σ β) : EStateM ε σ α := fun s =>
  match m s with
  | .ok a t =>
    match f t with
    | .ok _ u => .ok a u
    | .error e u => .error e u
  | .error e t =>
    match f t with
    | .ok _ u => .error e u
    | .error e' u => .error e' u

theorem run_tryCatch_ok {m : EStateM ε σ α} {h : ε → EStateM ε σ α} {s u : σ} {a : α} :
    (tryCatch m h : EStateM ε σ α) s = .ok a u ↔
      m s = .ok a u ∨ ∃ e t, m s = .error e t ∧ h e t = .ok a u := by
  rw [run_tryCatch]
  cases m s <;> simp

theorem run_ensuring_ok {m : EStateM ε σ α} {f : EStateM ε σ β} {s u : σ} {a : α} :
    ensuring m f s = .ok a u ↔ ∃ t, m s = .ok a t ∧ ∃ b, f t = .ok b u := by
  unfold ensuring
  cases m s with
  | ok a t =>
    dsimp only
    cases closed : f t <;> simp [closed]
  | error e t =>
    dsimp only
    cases f t <;> simp

@[simp] theorem run_resultOf (r : Except ε α) (s : σ) :
    (resultOf r : EStateM ε σ α) s = match r with
      | .ok a => .ok a s
      | .error e => .error e s := by
  cases r <;> rfl

theorem resultOf_ok {r : Except ε α} {s t : σ} {a : α} :
    (resultOf r : EStateM ε σ α) s = .ok a t ↔ r = .ok a ∧ s = t := by
  cases r <;> simp

@[simp] theorem final_resultOf (r : Except ε α) (s : σ) :
    final (resultOf r : EStateM ε σ α) s = s := by
  cases r <;> rfl

@[simp] theorem outcome_resultOf (r : Except ε α) (s : σ) :
    outcome (resultOf r : EStateM ε σ α) s = r := by
  cases r <;> rfl

theorem final_bind (m : EStateM ε σ α) (f : α → EStateM ε σ β) (s : σ) :
    final (m >>= f) s = match outcome m s with
      | .ok a => final (f a) (final m s)
      | .error _ => final m s := by
  unfold final outcome
  rw [run_bind]
  cases m s <;> rfl

theorem outcome_bind (m : EStateM ε σ α) (f : α → EStateM ε σ β) (s : σ) :
    outcome (m >>= f) s = match outcome m s with
      | .ok a => outcome (f a) (final m s)
      | .error e => .error e := by
  unfold final outcome
  rw [run_bind]
  cases m s <;> rfl

theorem final_ensuring (m : EStateM ε σ α) (f : EStateM ε σ β) (s : σ) :
    final (ensuring m f) s = final f (final m s) := by
  unfold final ensuring
  cases m s with
  | ok a t => dsimp only; cases f t <;> rfl
  | error e t => dsimp only; cases f t <;> rfl

structure Compositional (Φ : (α : Type) → EStateM ε σ α → Prop) : Prop where
  pure : ∀ {α : Type} (a : α), Φ α (Pure.pure a)
  bind : ∀ {α β : Type} {m : EStateM ε σ α} {f : α → EStateM ε σ β},
    Φ α m → (∀ a, Φ β (f a)) → Φ β (m >>= f)

namespace Compositional

variable {Φ : (α : Type) → EStateM ε σ α → Prop}

theorem ite {p : Prop} [Decidable p] {m n : EStateM ε σ α} (yes : Φ α m) (no : Φ α n) :
    Φ α (if p then m else n) := by
  split
  · exact yes
  · exact no

theorem loop (c : Compositional Φ) {items : List α} {f : α → EStateM ε σ PUnit}
    (each : ∀ a ∈ items, Φ PUnit (f a)) : Φ PUnit (forM items f) := by
  induction items with
  | nil => exact c.pure _
  | cons item rest ih =>
    rw [List.forM_cons]
    have first := each item (List.mem_cons_self ..)
    have others := ih fun a member => each a (List.mem_cons_of_mem _ member)
    exact c.bind first fun _ => others

end Compositional

def Preserves (P : σ → Prop) (m : EStateM ε σ α) : Prop := ∀ s, P s → P (final m s)

namespace Preserves

variable {P : σ → Prop}

theorem pure (a : α) : Preserves P (Pure.pure a : EStateM ε σ α) := fun _ h => h

theorem throw (e : ε) : Preserves P (MonadExcept.throw e : EStateM ε σ α) := fun _ h => h

theorem get : Preserves P (MonadState.get : EStateM ε σ σ) := fun _ h => h

theorem resultOf (r : Except ε α) : Preserves P (Py.resultOf r : EStateM ε σ α) := by
  intro s h
  rwa [final_resultOf]

theorem update {f : σ → σ} (h : ∀ s, P s → P (f s)) :
    Preserves P (modify f : EStateM ε σ PUnit) := h

theorem after {m : EStateM ε σ α} {f : α → EStateM ε σ β} {s : σ}
    (first : P (final m s)) (rest : ∀ a, Preserves P (f a)) : P (final (m >>= f) s) := by
  rw [final_bind]
  cases outcome m s with
  | ok a => exact rest a _ first
  | error e => exact first

theorem bind {m : EStateM ε σ α} {f : α → EStateM ε σ β}
    (first : Preserves P m) (rest : ∀ a, Preserves P (f a)) : Preserves P (m >>= f) :=
  fun s h => after (first s h) rest

theorem tryCatch {m : EStateM ε σ α} {handle : ε → EStateM ε σ α} (first : Preserves P m)
    (rest : ∀ e, Preserves P (handle e)) : Preserves P (MonadExcept.tryCatch m handle) := by
  intro s held
  have kept := first s held
  unfold final at kept ⊢
  rw [run_tryCatch]
  cases ran : m s with
  | ok a t =>
    rw [ran] at kept
    exact kept
  | error e t =>
    rw [ran] at kept
    exact rest e t kept

theorem compositional (P : σ → Prop) :
    Compositional fun α (m : EStateM ε σ α) => Preserves P m :=
  ⟨pure, bind⟩

end Preserves

def Blind (m : EStateM ε σ α) : Prop := ∀ s t, outcome m s = outcome m t

namespace Blind

theorem pure (a : α) : Blind (Pure.pure a : EStateM ε σ α) := fun _ _ => rfl

theorem resultOf (r : Except ε α) : Blind (Py.resultOf r : EStateM ε σ α) := by
  intro s t
  simp

theorem update (f : σ → σ) : Blind (modify f : EStateM ε σ PUnit) := fun _ _ => rfl

theorem bind {m : EStateM ε σ α} {f : α → EStateM ε σ β}
    (first : Blind m) (rest : ∀ a, Blind (f a)) : Blind (m >>= f) := by
  intro s t
  rw [outcome_bind, outcome_bind, first s t]
  cases outcome m t with
  | ok a => exact rest a _ _
  | error e => rfl

theorem compositional : Compositional fun α (m : EStateM ε σ α) => Blind m :=
  ⟨pure, bind⟩

end Blind

def Raises (Q : ε → Prop) (m : EStateM ε σ α) : Prop := ∀ s e, outcome m s = .error e → Q e

namespace Raises

variable {Q : ε → Prop}

theorem pure (a : α) : Raises Q (Pure.pure a : EStateM ε σ α) := nofun

theorem get : Raises Q (MonadState.get : EStateM ε σ σ) := nofun

theorem update (f : σ → σ) : Raises Q (modify f : EStateM ε σ PUnit) := nofun

theorem resultOf {r : Except ε α} (raised : ∀ e, r = .error e → Q e) :
    Raises Q (Py.resultOf r : EStateM ε σ α) := by
  intro s e failed
  rw [outcome_resultOf] at failed
  exact raised e failed

theorem bind {m : EStateM ε σ α} {f : α → EStateM ε σ β} (first : Raises Q m) (rest : ∀ a, Raises Q (f a)) :
    Raises Q (m >>= f) := by
  intro s e failed
  rw [outcome_bind] at failed
  cases ran : outcome m s with
  | ok a =>
    rw [ran] at failed
    exact rest a _ e failed
  | error other =>
    rw [ran] at failed
    cases failed
    exact first s e ran

theorem compositional (Q : ε → Prop) :
    Compositional fun α (m : EStateM ε σ α) => Raises Q m :=
  ⟨pure, bind⟩

end Raises

theorem except_bind_ok {first : Except ε α} {rest : α → Except ε β} {b : β} :
    first >>= rest = .ok b ↔ ∃ a, first = .ok a ∧ rest a = .ok b := by
  cases first <;> simp [Bind.bind, Except.bind]

theorem except_map_ok {first : Except ε α} {f : α → β} {b : β} :
    f <$> first = .ok b ↔ ∃ a, first = .ok a ∧ f a = b := by
  cases first <;> simp [Functor.map, Except.map]

theorem except_bind_pair_ok {first : Except ε α} {second : Except ε β} {f : α → β → γ} {c : γ} :
    (do let a ← first; let b ← second; return f a b) = .ok c ↔
      ∃ a b, first = .ok a ∧ second = .ok b ∧ c = f a b := by
  constructor
  · intro done
    obtain ⟨a, head, done⟩ := except_bind_ok.mp done
    obtain ⟨b, tail, done⟩ := except_bind_ok.mp done
    exact ⟨a, b, head, tail, (Except.ok.inj done).symm⟩
  · rintro ⟨a, b, head, tail, rfl⟩
    exact except_bind_ok.mpr ⟨a, head, except_bind_ok.mpr ⟨b, tail, rfl⟩⟩

theorem except_map_error {first : Except ε α} {f : α → β} {e : ε} :
    f <$> first = .error e ↔ first = .error e := by
  cases first <;> simp [Functor.map, Except.map]

theorem except_bind_error {first : Except ε α} {rest : α → Except ε β} {e : ε} :
    first >>= rest = .error e ↔ first = .error e ∨ ∃ a, first = .ok a ∧ rest a = .error e := by
  cases first <;> simp [Bind.bind, Except.bind]

theorem except_bind_raises {Q : ε → Prop} {first : Except ε α} {rest : α → Except ε β}
    (head : ∀ e, first = .error e → Q e) (tail : ∀ a e, rest a = .error e → Q e) (e : ε)
    (raised : first >>= rest = .error e) : Q e := by
  cases ran : first with
  | ok a =>
    rw [ran] at raised
    exact tail a e raised
  | error other =>
    rw [ran] at raised
    cases raised
    exact head e ran

theorem mapM_all {P : β → Prop} {f : α → Except ε β} (each : ∀ a b, f a = .ok b → P b)
    {items : List α} {results : List β} (done : items.mapM f = .ok results) : ∀ b ∈ results, P b := by
  induction items generalizing results with
  | nil =>
    cases done
    simp
  | cons item rest ih =>
    rw [List.mapM_cons, except_bind_pair_ok] at done
    obtain ⟨first, others, head, tail, rfl⟩ := done
    intro b member
    rcases List.mem_cons.mp member with rfl | member
    · exact each item b head
    · exact ih tail b member

theorem mapM_getElem? {f : α → Except ε β} {items : List α} {results : List β}
    (done : items.mapM f = .ok results) :
    items.length = results.length ∧
      ∀ i : Nat, Option.Rel (fun a b => f a = .ok b) items[i]? results[i]? := by
  induction items generalizing results with
  | nil =>
    cases done
    exact ⟨rfl, fun _ => .none⟩
  | cons item rest ih =>
    rw [List.mapM_cons, except_bind_pair_ok] at done
    obtain ⟨first, others, head, tail, rfl⟩ := done
    constructor
    · rw [List.length_cons, List.length_cons, (ih tail).1]
    · intro i
      cases i with
      | zero => exact .some head
      | succ i => exact (ih tail).2 i

theorem mapM_error {f : α → Except ε β} {items : List α} {e : ε} (raised : items.mapM f = .error e) :
    ∃ (i : Nat) (a : α), items[i]? = some a ∧ f a = .error e := by
  induction items with
  | nil => cases raised
  | cons item rest ih =>
    rw [List.mapM_cons] at raised
    rcases except_bind_error.mp raised with failed | ⟨first, -, failed⟩
    · exact ⟨0, item, rfl, failed⟩
    · rcases except_bind_error.mp failed with failed | ⟨others, -, returned⟩
      · obtain ⟨i, a, place, failed⟩ := ih failed
        exact ⟨i + 1, a, place, failed⟩
      · cases returned

theorem mapM_error_iff {f : α → Except ε β} {items : List α} {e : ε} :
    items.mapM f = .error e ↔
      ∃ before a after, items = before ++ a :: after ∧ (∀ b ∈ before, ∃ r, f b = .ok r) ∧ f a = .error e := by
  induction items with
  | nil => simp [pure, Except.pure]
  | cons item rest ih =>
    rw [List.mapM_cons, except_bind_error]
    constructor
    · rintro (failed | ⟨first, succeeded, failed⟩)
      · exact ⟨[], item, rest, rfl, List.forall_mem_nil _, failed⟩
      · rcases except_bind_error.mp failed with failed | ⟨others, -, returned⟩
        · obtain ⟨before, a, after, rfl, all, failed⟩ := ih.mp failed
          exact ⟨item :: before, a, after, rfl, List.forall_mem_cons.mpr ⟨⟨first, succeeded⟩, all⟩, failed⟩
        · cases returned
    · rintro ⟨before, a, after, split, all, failed⟩
      cases before with
      | nil =>
        rw [List.nil_append, List.cons.injEq] at split
        exact .inl (split.1 ▸ failed)
      | cons head before =>
        rw [List.cons_append, List.cons.injEq] at split
        obtain ⟨⟨first, succeeded⟩, all⟩ := List.forall_mem_cons.mp all
        rw [← split.1] at succeeded
        have later := ih.mpr ⟨before, a, after, split.2, all, failed⟩
        exact .inr ⟨first, succeeded, except_bind_error.mpr (.inl later)⟩

theorem mem_of_mapM {f : α → Except ε β} {items : List α} {results : List β} (done : items.mapM f = .ok results)
    {b : β} (member : b ∈ results) : ∃ a ∈ items, f a = .ok b := by
  obtain ⟨i, place⟩ := List.mem_iff_getElem?.mp member
  have related := (mapM_getElem? done).2 i
  rw [place] at related
  cases found : items[i]? with
  | none =>
    rw [found] at related
    cases related
  | some a =>
    rw [found] at related
    cases related with
    | some succeeded => exact ⟨a, List.mem_of_getElem? found, succeeded⟩

theorem mapM_raises {Q : ε → Prop} {f : α → Except ε β} (each : ∀ a e, f a = .error e → Q e)
    (items : List α) (e : ε) (raised : items.mapM f = .error e) : Q e := by
  induction items generalizing e with
  | nil => cases raised
  | cons item rest ih =>
    rw [List.mapM_cons] at raised
    refine except_bind_raises (each item) (fun first e failed => ?_) e raised
    exact except_bind_raises ih (fun _ _ returned => by cases returned) e failed

theorem mapM_of_read {γ : Type} {read : α → Option β} {f : α → Except ε γ} {g : β → γ}
    (each : ∀ a b, read a = some b → f a = .ok (g b)) {items : List α} {found : List β}
    (reads : items.mapM read = some found) : items.mapM f = .ok (found.map g) := by
  induction items generalizing found with
  | nil =>
    cases reads
    rfl
  | cons item rest ih =>
    rw [List.mapM_cons] at reads ⊢
    obtain ⟨first, head, reads⟩ := Option.bind_eq_some_iff.mp reads
    obtain ⟨others, tail, reads⟩ := Option.bind_eq_some_iff.mp reads
    cases reads
    rw [each item first head, ih tail]
    rfl

end Py
