import CysAgi.Base.Effect

namespace Onion

open Py

variable {ε σ Req Resp : Type}

abbrev Handler (ε σ Req Resp : Type) := Req → EStateM ε σ Resp

structure Layer (ε σ Req Resp : Type) where
  before : Req → EStateM ε σ (Resp ⊕ Req)
  after : Resp → EStateM ε σ Resp

namespace Layer

def wrap (layer : Layer ε σ Req Resp) (handler : Handler ε σ Req Resp) : Handler ε σ Req Resp := fun request => do
  match ← layer.before request with
  | .inl answer => return answer
  | .inr asked =>
    let answer ← handler asked
    layer.after answer

def bare : Layer ε σ Req Resp where
  before request := return .inr request
  after answer := return answer

def around (outer inner : Layer ε σ Req Resp) : Layer ε σ Req Resp where
  before request := do
    match ← outer.before request with
    | .inl answer => return .inl answer
    | .inr asked =>
      match ← inner.before asked with
      | .inl answer =>
        let answer ← outer.after answer
        return .inl answer
      | .inr asked => return .inr asked
  after answer := do
    let answer ← inner.after answer
    outer.after answer

def stack (layers : List (Layer ε σ Req Resp)) : Layer ε σ Req Resp := layers.foldr around bare

def Asks (layer : Layer ε σ Req Resp) (request : Req) (s : σ) (asked : Req) (t : σ) : Prop :=
  layer.before request s = .ok (.inr asked) t

variable {layer outer inner : Layer ε σ Req Resp} {handler : Handler ε σ Req Resp} {request asked : Req} {s t u : σ}

theorem run_wrap (layer : Layer ε σ Req Resp) (handler : Handler ε σ Req Resp) (request : Req) (s : σ) :
    layer.wrap handler request s = match layer.before request s with
      | .ok (.inl answer) t => .ok answer t
      | .ok (.inr asked) t => (handler asked >>= layer.after) t
      | .error e t => .error e t := by
  rw [wrap, run_bind]
  cases layer.before request s with
  | ok reached t =>
    cases reached with
    | inl answer => rfl
    | inr asked => rfl
  | error e t => rfl

@[simp] theorem wrap_bare (handler : Handler ε σ Req Resp) : bare.wrap handler = handler := by
  funext request s
  simp only [run_wrap, bare, run_pure, run_bind]
  cases handler request s <;> rfl

theorem wrap_around (outer inner : Layer ε σ Req Resp) (handler : Handler ε σ Req Resp) :
    (outer.around inner).wrap handler = outer.wrap (inner.wrap handler) := by
  funext request s
  simp only [run_wrap, around, run_bind]
  cases outer.before request s with
  | error e t => rfl
  | ok reached t =>
    cases reached with
    | inl answer => rfl
    | inr asked =>
      simp only [run_bind]
      cases inner.before asked t with
      | error e u => rfl
      | ok reached u =>
        cases reached with
        | inl answer =>
          simp only [run_bind]
          cases outer.after answer u <;> rfl
        | inr asked =>
          simp only [run_pure]
          cases handler asked u <;> rfl

theorem wrap_stack (layers : List (Layer ε σ Req Resp)) (handler : Handler ε σ Req Resp) :
    (stack layers).wrap handler = layers.foldr wrap handler := by
  induction layers with
  | nil => exact wrap_bare handler
  | cons layer rest ih =>
    rw [List.foldr_cons, ← ih]
    exact wrap_around layer (stack rest) handler

theorem asks_bare : (bare : Layer ε σ Req Resp).Asks request s asked t ↔ asked = request ∧ t = s := by
  simp [Asks, bare, eq_comm]

/-- Both layers ask, the inner one for what the outer one hands on. -/
theorem asks_around :
    (outer.around inner).Asks request s asked u ↔
      ∃ middle t, outer.Asks request s middle t ∧ inner.Asks middle t asked u := by
  constructor
  · intro asks
    simp only [Asks, around, run_bind_ok] at asks
    obtain ⟨reached, t, first, rest⟩ := asks
    cases reached with
    | inl answer => simp at rest
    | inr middle =>
      simp only [run_bind_ok] at rest
      obtain ⟨reached, v, second, rest⟩ := rest
      cases reached with
      | inl answer =>
        obtain ⟨back, w, -, ended⟩ := run_bind_ok.mp rest
        cases ended
      | inr last =>
        simp only [run_pure, EStateM.Result.ok.injEq, Sum.inr.injEq] at rest
        obtain ⟨rfl, rfl⟩ := rest
        exact ⟨middle, t, first, second⟩
  · rintro ⟨middle, t, first, second⟩
    have outerAsks : outer.before request s = .ok (.inr middle) t := first
    have innerAsks : inner.before middle t = .ok (.inr asked) u := second
    simp only [Asks, around, run_bind, outerAsks, innerAsks, run_pure]

theorem asks_append {outers inners : List (Layer ε σ Req Resp)} :
    (stack (outers ++ inners)).Asks request s asked u ↔
      ∃ middle t, (stack outers).Asks request s middle t ∧ (stack inners).Asks middle t asked u := by
  induction outers generalizing request s with
  | nil =>
    constructor
    · intro asks
      exact ⟨request, s, asks_bare.mpr ⟨rfl, rfl⟩, asks⟩
    · rintro ⟨middle, t, handed, asks⟩
      obtain ⟨rfl, rfl⟩ := asks_bare.mp handed
      exact asks
  | cons layer rest ih =>
    constructor
    · intro asks
      obtain ⟨first, v, asked, others⟩ := asks_around.mp asks
      obtain ⟨middle, t, outside, inside⟩ := ih.mp others
      exact ⟨middle, t, asks_around.mpr ⟨first, v, asked, outside⟩, inside⟩
    · rintro ⟨middle, t, outside, inside⟩
      obtain ⟨first, v, asked, others⟩ := asks_around.mp outside
      exact asks_around.mpr ⟨first, v, asked, ih.mpr ⟨middle, t, others, inside⟩⟩

structure Preparing (layer : Layer ε σ Req Resp) : Prop where
  silent : ∀ request s answer t, layer.before request s ≠ .ok (.inl answer) t
  after : ∀ answer, layer.after answer = pure answer

theorem preparing_bare : (bare : Layer ε σ Req Resp).Preparing := by
  constructor
  · intro request s answer t answered
    cases answered
  · intro answer
    rfl

theorem Preparing.around (outside : outer.Preparing) (inside : inner.Preparing) : (outer.around inner).Preparing := by
  constructor
  · intro request s answer t answered
    simp only [Layer.around, run_bind_ok] at answered
    obtain ⟨reached, u, first, rest⟩ := answered
    cases reached with
    | inl own => exact outside.silent _ _ _ _ first
    | inr asked =>
      simp only [run_bind_ok] at rest
      obtain ⟨reached, v, second, rest⟩ := rest
      cases reached with
      | inl own => exact inside.silent _ _ _ _ second
      | inr last => simp at rest
  · intro answer
    simp only [Layer.around, inside.after, outside.after]
    rfl

theorem preparing_stack {layers : List (Layer ε σ Req Resp)} (each : ∀ layer ∈ layers, layer.Preparing) :
    (stack layers).Preparing := by
  induction layers with
  | nil => exact preparing_bare
  | cons layer rest ih =>
    have first := each layer List.mem_cons_self
    have others := ih fun other member => each other (List.mem_cons_of_mem _ member)
    exact first.around others

theorem Preparing.wrap_cases (preparing : layer.Preparing) (handler : Handler ε σ Req Resp) (request : Req) (s : σ) :
    (∃ e t, layer.before request s = .error e t ∧ layer.wrap handler request s = .error e t) ∨
      ∃ asked t, layer.Asks request s asked t ∧ layer.wrap handler request s = handler asked t := by
  rw [run_wrap]
  cases reached : layer.before request s with
  | error e t => exact .inl ⟨e, t, rfl, rfl⟩
  | ok result t =>
    cases result with
    | inl answer => exact absurd reached (preparing.silent _ _ _ _)
    | inr asked =>
      refine .inr ⟨asked, t, reached, ?_⟩
      dsimp only
      rw [run_bind, show layer.after = pure from funext preparing.after]
      cases handler asked t <;> rfl

structure Keeps (P : σ → Prop) (layer : Layer ε σ Req Resp) : Prop where
  before : ∀ request, Preserves P (layer.before request)
  after : ∀ answer, Preserves P (layer.after answer)

variable {P : σ → Prop}

theorem keeps_bare : Keeps P (bare : Layer ε σ Req Resp) :=
  ⟨fun request => Preserves.pure (Sum.inr request), fun answer => Preserves.pure answer⟩

theorem Keeps.around (outside : Keeps P outer) (inside : Keeps P inner) : Keeps P (outer.around inner) := by
  constructor
  · intro request
    apply Preserves.bind (outside.before request)
    intro reached
    cases reached with
    | inl answer => exact Preserves.pure _
    | inr asked =>
      apply Preserves.bind (inside.before asked)
      intro reached
      cases reached with
      | inl answer => exact Preserves.bind (outside.after answer) fun _ => Preserves.pure _
      | inr asked => exact Preserves.pure _
  · intro answer
    exact Preserves.bind (inside.after answer) outside.after

theorem keeps_stack {layers : List (Layer ε σ Req Resp)} (each : ∀ layer ∈ layers, Keeps P layer) :
    Keeps P (stack layers) := by
  induction layers with
  | nil => exact keeps_bare
  | cons layer rest ih =>
    have first := each layer List.mem_cons_self
    have others := ih fun other member => each other (List.mem_cons_of_mem _ member)
    exact first.around others

theorem Keeps.asks (keeps : Keeps P layer) (asks : layer.Asks request s asked t) (held : P s) : P t := by
  have kept := keeps.before request s held
  rw [final, show layer.before request s = .ok (.inr asked) t from asks] at kept
  exact kept

theorem Keeps.wrap (keeps : Keeps P layer) (handled : ∀ asked, Preserves P (handler asked)) (request : Req) :
    Preserves P (layer.wrap handler request) := by
  apply Preserves.bind (keeps.before request)
  intro reached
  cases reached with
  | inl answer => exact Preserves.pure answer
  | inr asked => exact Preserves.bind (handled asked) keeps.after

end Layer

end Onion
